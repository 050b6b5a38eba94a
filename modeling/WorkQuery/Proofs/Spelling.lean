import WorkQuery.Proofs.Text
import WorkQuery.Decimal.Reading
import WorkQuery.Query.Quote

/-!
# WorkQuery.Proofs.Spelling

What is written is read back: the digits of numbers, with a sign or with zeros in front
(`Numeral.readInt64?_intText`, `Numeral.scanNumber?_padded`), and the escaped form of texts
(`Quote.unescape_escape`).
-/

namespace WorkQuery

namespace Numeral

theorem isDigit_of_mem_digits {n : Nat} {c : Char} (h : c ∈ digits n) : c.isDigit = true :=
  Nat.isDigit_of_mem_toDigits (by decide) (by decide) h

theorem digits_eq_cons (n : Nat) : ∃ c cs, digits n = c :: cs ∧ c.isDigit = true := by
  have hne : digits n ≠ [] := Nat.toDigits_ne_nil
  obtain ⟨c, cs, hcs⟩ := List.exists_cons_of_ne_nil hne
  have hmem : c ∈ digits n := by rw [hcs]; exact List.mem_cons_self
  exact ⟨c, cs, hcs, isDigit_of_mem_digits hmem⟩

theorem readDigits?_digits (n : Nat) : readDigits? (digits n) = some n := by
  have hne : digits n ≠ [] := Nat.toDigits_ne_nil
  have hall : (digits n).all Char.isDigit = true := by
    rw [List.all_eq_true]
    exact fun c hc => isDigit_of_mem_digits hc
  have hvalue : Nat.ofDigitChars 10 (digits n) 0 = n := Nat.ofDigitChars_ten_toDigits
  simp [readDigits?, hne, hall, hvalue]

theorem readDigits?_iff {cs : List Char} {n : Nat} : readDigits? cs = some n ↔
    cs ≠ [] ∧ cs.all Char.isDigit = true ∧ Nat.ofDigitChars 10 cs 0 = n := by
  simp [readDigits?, and_assoc]

/-- The digits of a whole number, with its sign, are read as that number wherever it fits. -/
theorem readInt64?_intText (n : Int) :
    readInt64? (intText n).toList = if isInt64 n then some n else none := by
  cases n with
  | ofNat n =>
    obtain ⟨c, cs, hcs, hc⟩ := digits_eq_cons n
    have hread := readDigits?_digits n
    have htext : (intText (.ofNat n)).toList = c :: cs := by simp [intText, natText, hcs]
    rw [hcs] at hread
    have hminus : c ≠ '-' := by rintro rfl; exact absurd hc (by decide)
    have hplus : c ≠ '+' := by rintro rfl; exact absurd hc (by decide)
    rw [htext]
    simp [readInt64?, hminus, hplus, hread]
  | negSucc n =>
    have hread := readDigits?_digits (n + 1)
    simp [intText, readInt64?, hread, Int.negSucc_eq]

theorem isDigit_or_of_mem_intText {n : Int} {c : Char} (h : c ∈ (intText n).toList) :
    c.isDigit = true ∨ c = '-' := by
  cases n with
  | ofNat n =>
    have hc : c ∈ digits n := by simpa [intText, natText] using h
    exact .inl (isDigit_of_mem_digits hc)
  | negSucc n =>
    have hc : c = '-' ∨ c ∈ digits (n + 1) := by simpa [intText, natText] using h
    exact hc.symm.imp_left isDigit_of_mem_digits

theorem isBlankText_intText (n : Int) : Text.isBlankText (intText n) = false := by
  obtain ⟨c, hc⟩ : ∃ c, c ∈ (intText n).toList := by
    cases n with
    | ofNat n =>
      obtain ⟨c, cs, hcs, _⟩ := digits_eq_cons n
      exact ⟨c, by simp [intText, natText, hcs]⟩
    | negSucc n => exact ⟨'-', by simp [intText]⟩
  have hblank : Text.isBlank c = false := by
    rcases isDigit_or_of_mem_intText hc with hdigit | rfl
    · exact Text.isBlank_of_isDigit hdigit
    · decide
  rw [Text.isBlankText, List.all_eq_false]
  exact ⟨c, hc, by simp [hblank]⟩

theorem readInt64?_isInt64 {cs : List Char} {n : Int} (h : readInt64? cs = some n) :
    isInt64 n = true := by
  simp only [readInt64?] at h
  split at h
  · split at h
    · rename_i hfits
      cases h
      exact hfits
    · cases h
  · cases h

theorem length_digits_le {n k : Nat} (hk : 0 < k) : (digits n).length ≤ k ↔ n < 10 ^ k :=
  Nat.length_toDigits_le_iff (by decide) hk

/-- A run of digits writes less than a one with as many zeros. -/
theorem ofDigitChars_lt : ∀ (cs : List Char) (start : Nat), (∀ c ∈ cs, c.isDigit = true) →
    Nat.ofDigitChars 10 cs start < 10 ^ cs.length * (start + 1) := by
  intro cs
  induction cs with
  | nil => intro start _; simp [Nat.ofDigitChars_nil]
  | cons c cs ih =>
    intro start h
    have hc := Char.isDigit_iff_toNat.mp (h c (by simp))
    have h0 : '0'.toNat = 48 := rfl
    have h9 : '9'.toNat = 57 := rfl
    have hmore := ih (10 * start + (c.toNat - '0'.toNat)) fun d hd => h d (by simp [hd])
    rw [Nat.ofDigitChars_cons, List.length_cons, Nat.pow_succ, Nat.mul_assoc]
    refine lt_of_lt_of_le hmore (Nat.mul_le_mul_left _ ?_)
    omega

theorem readDigits?_lt {cs : List Char} {n k : Nat} (h : readDigits? cs = some n)
    (hlen : cs.length ≤ k) : n < 10 ^ k := by
  obtain ⟨-, hall, rfl⟩ := readDigits?_iff.mp h
  have hlt := ofDigitChars_lt cs 0 (List.all_eq_true.mp hall)
  rw [Nat.zero_add, Nat.mul_one] at hlt
  exact lt_of_lt_of_le hlt (Nat.pow_le_pow_right (by decide) hlen)

/-! ### Numbers with zeros in front -/

theorem isDigit_of_mem_padded {w n : Nat} {c : Char} (h : c ∈ padded w n) : c.isDigit = true := by
  rcases List.mem_append.mp h with h | h
  · rw [List.eq_of_mem_replicate h]
    rfl
  · exact isDigit_of_mem_digits h

theorem padded_eq_cons (w n : Nat) : ∃ c cs, padded w n = c :: cs ∧ c.isDigit = true := by
  have hne : padded w n ≠ [] := by
    obtain ⟨c, cs, hcs, _⟩ := digits_eq_cons n
    simp [padded, hcs]
  obtain ⟨c, cs, hcs⟩ := List.exists_cons_of_ne_nil hne
  have hmem : c ∈ padded w n := by rw [hcs]; exact List.mem_cons_self
  exact ⟨c, cs, hcs, isDigit_of_mem_padded hmem⟩

theorem length_padded_le {w n : Nat} (hw : 0 < w) (h : n < 10 ^ w) : (padded w n).length ≤ w := by
  have hdigits := (length_digits_le hw).mpr h
  simp only [padded, List.length_append, List.length_replicate]
  omega

theorem ofDigitChars_padded (w n : Nat) : Nat.ofDigitChars 10 (padded w n) 0 = n := by
  rw [padded, Nat.ofDigitChars_append, Nat.ofDigitChars_replicate_zero, Nat.mul_zero]
  exact Nat.ofDigitChars_ten_toDigits

theorem takeWhile_padded (w n : Nat) {rest : List Char} (hrest : ∀ c ∈ rest.head?, c.isDigit = false) :
    (padded w n ++ rest).takeWhile Char.isDigit = padded w n := by
  rw [List.takeWhile_append_of_pos fun c hc => isDigit_of_mem_padded hc]
  cases rest with
  | nil => simp
  | cons c rest => rw [List.takeWhile_cons_of_neg (by simp [hrest c rfl]), List.append_nil]

/-- A number with zeros in front is scanned as that number, if it has no more digits than are
asked for. -/
theorem scanNumber?_padded {limit : Option Nat} {w n : Nat}
    (hlimit : ∀ k ∈ limit, (padded w n).length ≤ k) {rest : List Char}
    (hrest : ∀ c ∈ rest.head?, c.isDigit = false) :
    scanNumber? limit (padded w n ++ rest) = some (n, rest) := by
  obtain ⟨c, cs, hcs, _⟩ := padded_eq_cons w n
  have hempty : (padded w n).isEmpty = false := by rw [hcs]; rfl
  have hrun := takeWhile_padded w n hrest
  cases limit with
  | none => simp [scanNumber?, hrun, hempty, ofDigitChars_padded]
  | some k =>
    have htake := List.take_of_length_le (hlimit k rfl)
    simp [scanNumber?, hrun, htake, hempty, ofDigitChars_padded]

theorem hexDigit?_digitChar {n : Nat} (h : n < 16) : hexDigit? (Nat.digitChar n) = some n := by
  have hall : ∀ n < 16, hexDigit? (Nat.digitChar n) = some n := by decide
  exact hall n h

end Numeral

namespace Binary64

/-- The digits of a whole number, with its sign, are read as some floating-point number. -/
theorem ofChars?_intText (n : Int) : (ofChars? (Numeral.intText n).toList).isSome = true := by
  have hmagnitude : ∀ (negative : Bool) (m : Nat),
      (readMagnitude? negative (Numeral.digits m)).isSome = true := by
    intro negative m
    have hrun : (Numeral.digits m).takeWhile Char.isDigit = Numeral.digits m := by
      rw [List.takeWhile_eq_self_iff]
      exact fun c hc => Numeral.isDigit_of_mem_digits hc
    have hne : Numeral.digits m ≠ [] := Nat.toDigits_ne_nil
    simp [readMagnitude?, hrun, hne]
  -- a word for an infinity or for no number would do as well
  have hbody : ∀ (negative : Bool) (m : Nat),
      (let word := String.ofList ((Numeral.digits m).map Char.toLower)
        if word = "inf" ∨ word = "infinity" then some (.infinite negative)
        else if word = "nan" then some .nan
        else readMagnitude? negative (Numeral.digits m)).isSome = true := by
    intro negative m
    simp only []
    split
    · rfl
    · split
      · rfl
      · exact hmagnitude negative m
  cases n with
  | ofNat n =>
    obtain ⟨c, cs, hcs, hc⟩ := Numeral.digits_eq_cons n
    have hminus : c ≠ '-' := by rintro rfl; exact absurd hc (by decide)
    have hplus : c ≠ '+' := by rintro rfl; exact absurd hc (by decide)
    have hread := hbody false n
    rw [hcs] at hread
    simpa [Numeral.intText, Numeral.natText, hcs, ofChars?, hminus, hplus] using hread
  | negSucc n =>
    have hread := hbody true (n + 1)
    simpa [Numeral.intText, ofChars?] using hread

end Binary64

namespace Quote

theorem unescapeFrom_escapeChars : ∀ (cs : List Char) (position : Nat),
    unescapeFrom position (escapeChars cs) = .ok cs := by
  intro cs
  induction cs with
  | nil => intro position; rfl
  | cons c cs ih =>
    intro position
    by_cases hc : c = '\''
    · subst hc
      have he : escapeChars ('\'' :: cs) = '\'' :: '\'' :: escapeChars cs := rfl
      rw [he, unescapeFrom, ih]
      rfl
    · have he : escapeChars (c :: cs) = c :: escapeChars cs := by simp [escapeChars, hc]
      rw [he, unescapeFrom, ih]
      · simp [hc, Except.map]
      · intro rest
        simp [hc]

theorem unescape_escape (s : String) : unescape (escape s) = .ok s := by
  simp [unescape, escape, unescapeFrom_escapeChars, Except.map]

end Quote
end WorkQuery
