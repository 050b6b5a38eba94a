import WorkQuery.Data.JsonPrinter
import WorkQuery.Data.JsonReader
import WorkQuery.Proofs.Spelling

/-!
# WorkQuery.Proofs.Data.JsonText

JSON text is read back.

* `Spells`: the texts of a value, with blanks wherever they may stand between tokens.
* `ofChars?_spells`: a text of a value is read as that value.
* `spells_chars`, `spells_prettyChars`: the texts that are printed are such texts, if the value holds
  whole numbers of 64 bits only.
-/

namespace WorkQuery
namespace Data
namespace Json

/-! ## Strings -/

theorem hex4?_digitChars {n : Nat} (h : n < 256) :
    hex4? '0' '0' (Nat.digitChar (n / 16)) (Nat.digitChar (n % 16)) = some n := by
  have hzero : Numeral.hexDigit? '0' = some 0 := by decide
  have hhigh := Numeral.hexDigit?_digitChar (show n / 16 < 16 by omega)
  have hlow := Numeral.hexDigit?_digitChar (show n % 16 < 16 by omega)
  simp only [hex4?, hzero, hhigh, hlow, Option.bind_eq_bind, Option.bind_some, Option.pure_def,
    Option.some.injEq]
  omega

theorem scanString?_escapeChar (c : Char) (tail : List Char) :
    scanString? (escapeChar c ++ tail) =
      (scanString? tail).map fun (body, rest) => (body.map (c :: ·), rest) := by
  unfold escapeChar
  split
  · subst c
    simp [scanString?, simpleEscape?]
  split
  · subst c
    simp [scanString?, simpleEscape?]
  split
  · next h =>
    obtain rfl : c = Char.ofNat 8 := by rw [← h, Char.ofNat_toNat]
    simp [scanString?, simpleEscape?]
  split
  · next h =>
    obtain rfl : c = Char.ofNat 12 := by rw [← h, Char.ofNat_toNat]
    simp [scanString?, simpleEscape?]
  split
  · subst c
    simp [scanString?, simpleEscape?]
  split
  · subst c
    simp [scanString?, simpleEscape?]
  split
  · subst c
    simp [scanString?, simpleEscape?]
  split
  · next hcontrol =>
    -- a control character is no half of a pair, so its four digits stand for it alone
    have hunit := hex4?_digitChars (show c.toNat < 256 by omega)
    have hhigh : isHighSurrogate c.toNat = false := by
      simp only [isHighSurrogate, Bool.and_eq_false_iff, decide_eq_false_iff_not]
      omega
    have hlow : isLowSurrogate c.toNat = false := by
      simp only [isLowSurrogate, Bool.and_eq_false_iff, decide_eq_false_iff_not]
      omega
    simp [scanString?, hunit, hhigh, hlow]
  · next hquote hback _ _ _ _ _ hplain =>
    rw [List.singleton_append, scanString?]
    · simp [hplain, hback]
    · simp [hquote]
    · simp [hback]
    · simp [hback]

theorem scanString?_body (cs tail : List Char) :
    scanString? (cs.flatMap escapeChar ++ '"' :: tail) = some (some cs, tail) := by
  induction cs with
  | nil => simp [scanString?]
  | cons c cs ih =>
    rw [List.flatMap_cons, List.append_assoc, scanString?_escapeChar, ih]
    rfl

/-! ## Numbers -/

/-- No number goes on in the text. -/
def Ends (rest : List Char) : Prop :=
  ∀ c ∈ rest.head?, c.isDigit = false ∧ c ≠ '.' ∧ c ≠ 'e' ∧ c ≠ 'E'

theorem ends_nil : Ends [] := nofun

theorem ends_cons {c : Char} {rest : List Char} (h : isBlank c = true ∨ c ∈ [',', ']', '}']) :
    Ends (c :: rest) := by
  rintro _ ⟨⟩
  simp only [isBlank, Bool.or_eq_true, beq_iff_eq, List.mem_cons, List.not_mem_nil, or_false] at h
  rcases h with (((rfl | rfl) | rfl) | rfl) | rfl | rfl | rfl <;> decide

end Json
end Data

namespace Numeral

/-- Only the number zero begins with a zero. -/
theorem length_digits_of_zero {n : Nat} (h : (digits n).head? = some '0') : (digits n).length = 1 := by
  obtain ⟨c, cs, hcs, -⟩ := digits_eq_cons n
  rw [hcs] at h
  obtain rfl := Option.some.inj h
  cases cs with
  | nil => rw [hcs]; rfl
  | cons c' cs' =>
    -- the digits after the zero write the same number, which then has no more digits than they
    have hvalue : Nat.ofDigitChars 10 (c' :: cs') 0 = n := by
      have hall : Nat.ofDigitChars 10 (digits n) 0 = n := Nat.ofDigitChars_ten_toDigits
      rwa [hcs, Nat.ofDigitChars_cons] at hall
    have hless := ofDigitChars_lt (c' :: cs') 0 fun c hc =>
      isDigit_of_mem_digits (n := n) (by rw [hcs]; exact List.mem_cons_of_mem _ hc)
    rw [hvalue, Nat.zero_add, Nat.mul_one, ← length_digits_le (by simp), hcs, List.length_cons] at hless
    omega

end Numeral

namespace Data
namespace Json

theorem scanWhole?_digits (n : Nat) {rest : List Char} (hrest : Ends rest) :
    scanWhole? (Numeral.digits n ++ rest) = some (n, rest) := by
  have hrun : (Numeral.digits n ++ rest).takeWhile Char.isDigit = Numeral.digits n := by
    have := Numeral.takeWhile_padded 0 n fun c hc => (hrest c hc).1
    simpa [Numeral.padded] using this
  have hne : Numeral.digits n ≠ [] := Nat.toDigits_ne_nil
  have hzero : ¬ ((Numeral.digits n).head? = some '0' ∧ 1 < (Numeral.digits n).length) := by
    rintro ⟨hhead, hlong⟩
    exact absurd (Numeral.length_digits_of_zero hhead) (by omega)
  have hvalue : Nat.ofDigitChars 10 (Numeral.digits n) 0 = n := Nat.ofDigitChars_ten_toDigits
  simp [scanWhole?, scanDigits?, hrun, hne, hzero, hvalue]

theorem scanFraction?_ends {rest : List Char} (h : Ends rest) :
    scanFraction? rest = some ([], rest) := by
  unfold scanFraction?
  split
  · exact absurd rfl (h '.' rfl).2.1
  · rfl

theorem scanExponent?_ends {rest : List Char} (h : Ends rest) :
    scanExponent? rest = some (none, rest) := by
  cases rest with
  | nil => rfl
  | cons c rest => simp [scanExponent?, (h c rfl).2.2]

/-- The digits of a whole number, with its sign, are scanned as that number. -/
theorem scanNumber?_intText (n : Int) {rest : List Char} (h : Ends rest) :
    scanNumber? ((Numeral.intText n).toList ++ rest) =
      some (⟨decide (n < 0), n.natAbs, [], none⟩, rest) := by
  cases n with
  | ofNat n =>
    obtain ⟨c, cs, hcs, hc⟩ := Numeral.digits_eq_cons n
    have hminus : c ≠ '-' := by
      rintro rfl
      exact absurd hc (by decide)
    have hwhole := scanWhole?_digits n h
    rw [hcs, List.cons_append] at hwhole
    simp [Numeral.intText, Numeral.natText, hcs, scanNumber?, hminus, hwhole, scanFraction?_ends h,
      scanExponent?_ends h]
  | negSucc n =>
    simp [Numeral.intText, scanNumber?, scanWhole?_digits _ h, scanFraction?_ends h,
      scanExponent?_ends h, Int.negSucc_lt_zero]

/-- Whether 64 bits hold the number, with a sign or without. -/
def isExact (n : Int) : Bool := -(Numeral.maxInt64 + 1 : Int) ≤ n && n ≤ (Numeral.maxUInt64 : Int)

theorem toData_exact {n : Int} (h : isExact n = true) :
    Number.toData ⟨decide (n < 0), n.natAbs, [], none⟩ = .integer n := by
  have hrange : -(Numeral.maxInt64 + 1 : Int) ≤ n ∧ n ≤ (Numeral.maxUInt64 : Int) := by
    simpa [isExact] using h
  have hint : Number.toInt? ⟨decide (n < 0), n.natAbs, [], none⟩ = some n := by
    unfold Number.toInt?
    by_cases hneg : n < 0
    · have hzero : n.natAbs ≠ 0 := by omega
      have hfits : ¬ Numeral.maxInt64 + 1 < n.natAbs := by omega
      have hvalue : -(n.natAbs : Int) = n := by omega
      simp only [hneg, hzero, hfits, decide_true, decide_false, List.isEmpty_nil, Bool.not_true,
        Option.isSome_none, Bool.or_self, Bool.false_eq_true, if_false, if_true, hvalue]
    · have hfits : n.natAbs ≤ Numeral.maxUInt64 := by omega
      have hvalue : (n.natAbs : Int) = n := by omega
      simp only [hneg, hfits, decide_false, List.isEmpty_nil, Bool.not_true, Option.isSome_none,
        Bool.or_self, Bool.false_eq_true, if_false, if_true, hvalue]
  rw [Number.toData, hint]

/-! ## Values -/

def Blanks (cs : List Char) : Prop := ∀ c ∈ cs, isBlank c = true

theorem blanks_nil : Blanks [] := nofun

theorem skipBlanks_append {blanks : List Char} (h : Blanks blanks) (cs : List Char) :
    skipBlanks (blanks ++ cs) = skipBlanks cs :=
  List.dropWhile_append_of_pos h

theorem skipBlanks_cons {c : Char} {cs : List Char} (h : isBlank c = false) :
    skipBlanks (c :: cs) = c :: cs :=
  List.dropWhile_cons_of_neg (by simp [h])

theorem ends_blanks {blanks : List Char} (h : Blanks blanks) {c : Char} {rest : List Char}
    (hc : c ∈ [',', ']', '}']) : Ends (blanks ++ c :: rest) := by
  cases blanks with
  | nil => exact ends_cons (.inr hc)
  | cons b blanks => exact ends_cons (.inl (h b (by simp)))

mutual

/-- The text writes the value; its tokens may have blanks between them. -/
inductive Spells : Data → List Char → Prop where
  | null : Spells .null ['n', 'u', 'l', 'l']
  | yes : Spells (.bool true) ['t', 'r', 'u', 'e']
  | no : Spells (.bool false) ['f', 'a', 'l', 's', 'e']
  | integer {n : Int} : isExact n = true → Spells (.integer n) (Numeral.intText n).toList
  | string (s : String) : Spells (.string s) (stringChars s)
  | noItems {blanks : List Char} : Blanks blanks → Spells (.list []) ('[' :: blanks ++ [']'])
  | list {items : List Data} {cs : List Char} :
      SpellsItems items cs → Spells (.list items) ('[' :: cs ++ [']'])
  | noMembers {blanks : List Char} : Blanks blanks → Spells (.record []) ('{' :: blanks ++ ['}'])
  | record {members : List (String × Data)} {cs : List Char} :
      SpellsMembers members cs → Spells (.record members) ('{' :: cs ++ ['}'])

inductive SpellsItems : List Data → List Char → Prop where
  | last {item : Data} {before cs after : List Char} :
      Blanks before → Spells item cs → Blanks after → SpellsItems [item] (before ++ cs ++ after)
  | cons {item : Data} {items : List Data} {before cs after more : List Char} :
      Blanks before → Spells item cs → Blanks after → SpellsItems items more →
      SpellsItems (item :: items) (before ++ cs ++ after ++ ',' :: more)

inductive SpellsMembers : List (String × Data) → List Char → Prop where
  | last {name : String} {value : Data} {before between cs after : List Char} :
      Blanks before → Blanks between → Spells value cs → Blanks after →
      SpellsMembers [(name, value)]
        (before ++ stringChars name ++ ':' :: between ++ cs ++ after)
  | cons {name : String} {value : Data} {members : List (String × Data)}
      {before between cs after more : List Char} :
      Blanks before → Blanks between → Spells value cs → Blanks after →
      SpellsMembers members more →
      SpellsMembers ((name, value) :: members)
        (before ++ stringChars name ++ ':' :: between ++ cs ++ after ++ ',' :: more)

end

theorem intText_first (n : Int) :
    ∃ c more, (Numeral.intText n).toList = c :: more ∧ (c.isDigit = true ∨ c = '-') := by
  cases n with
  | ofNat n =>
    obtain ⟨c, cs, hcs, hc⟩ := Numeral.digits_eq_cons n
    exact ⟨c, cs, by simp [Numeral.intText, Numeral.natText, hcs], .inl hc⟩
  | negSucc n => exact ⟨'-', Numeral.digits (n + 1), by simp [Numeral.intText], .inr rfl⟩

/-- A value begins with a token. -/
theorem Spells.first {d : Data} {cs : List Char} (h : Spells d cs) :
    ∃ c more, cs = c :: more ∧ isBlank c = false ∧ c ≠ ']' := by
  cases h with
  | null | yes | no | string | noItems | list | noMembers | record =>
    exact ⟨_, _, rfl, by decide, by decide⟩
  | @integer n =>
    obtain ⟨c, more, htext, hc⟩ := intText_first n
    refine ⟨c, more, htext, ?_⟩
    rcases hc with hc | rfl
    · have hcases := isDigit_cases hc
      simp only [List.mem_cons, List.not_mem_nil, or_false] at hcases
      rcases hcases with rfl | rfl | rfl | rfl | rfl | rfl | rfl | rfl | rfl | rfl <;> decide
    · decide

theorem Spells.brace {members : List (String × Data)} {cs : List Char}
    (h : Spells (.record members) cs) : ∃ more, cs = '{' :: more := by
  cases h with
  | noMembers | record => exact ⟨_, rfl⟩

theorem SpellsItems.first {items : List Data} {cs : List Char} (h : SpellsItems items cs)
    (rest : List Char) : (skipBlanks (cs ++ rest)).head? ≠ some ']' := by
  cases h with
  | last hbefore hitem _ | cons hbefore hitem _ _ =>
    obtain ⟨c, more, rfl, hblank, hc⟩ := hitem.first
    simp only [List.append_assoc]
    rw [skipBlanks_append hbefore, List.cons_append, skipBlanks_cons hblank]
    simpa using hc

theorem SpellsMembers.first {members : List (String × Data)} {cs : List Char}
    (h : SpellsMembers members cs) (rest : List Char) :
    (skipBlanks (cs ++ rest)).head? ≠ some '}' := by
  cases h with
  | last hbefore | cons hbefore =>
    simp only [List.append_assoc]
    rw [skipBlanks_append hbefore, stringChars, List.cons_append, List.cons_append,
      skipBlanks_cons (by decide)]
    simp

/-- A text that begins with neither a word, a quote nor a bracket is scanned as a number. -/
theorem scanValue?_number {fuel : Nat} {cs : List Char} {c : Char} {more : List Char}
    (hcs : skipBlanks cs = c :: more) (hc : c.isDigit = true ∨ c = '-') :
    scanValue? (fuel + 1) cs =
      (scanNumber? (c :: more)).map fun (n, rest) => (n.toData, rest) := by
  have hfirst : c ≠ 'n' ∧ c ≠ 't' ∧ c ≠ 'f' ∧ c ≠ '"' ∧ c ≠ '[' ∧ c ≠ '{' := by
    refine ⟨?_, ?_, ?_, ?_, ?_, ?_⟩ <;>
    · rintro rfl
      revert hc
      decide
  obtain ⟨hn, ht, hf, hquote, hbracket, hbrace⟩ := hfirst
  rw [scanValue?, hcs]
  split
  all_goals first
    | (next heq => cases heq; contradiction)
    | skip
  cases scanNumber? (c :: more) <;> rfl

/-! ## Reading -/

-- Every call spends one unit of fuel, and at most two calls begin at a character: one for the items or
-- the members that go on there, and one for the value.
mutual

theorem scanValue?_spells {d : Data} {cs : List Char} (h : Spells d cs) {fuel : Nat}
    (hfuel : 2 * cs.length ≤ fuel) {before rest : List Char} (hbefore : Blanks before)
    (hrest : Ends rest) : scanValue? fuel (before ++ (cs ++ rest)) = some (d, rest) := by
  obtain ⟨c, more, hcs, hblank, -⟩ := h.first
  obtain ⟨fuel, rfl⟩ : ∃ f, fuel = f + 1 := by
    refine ⟨fuel - 1, ?_⟩
    rw [hcs, List.length_cons] at hfuel
    omega
  have hskip : skipBlanks (before ++ (cs ++ rest)) = cs ++ rest := by
    rw [skipBlanks_append hbefore, hcs, List.cons_append, skipBlanks_cons hblank]
  match h with
  | .null | .yes | .no =>
    rw [scanValue?, hskip]
    rfl
  | @Spells.integer n hn =>
    obtain ⟨first, others, htext, hfirst⟩ := intText_first n
    have hnumber := scanNumber?_intText n hrest
    rw [htext, List.cons_append] at hskip hnumber
    rw [scanValue?_number (by rw [htext]; exact hskip) hfirst, hnumber]
    simp only [Option.map_some, toData_exact hn]
  | .string s =>
    rw [scanValue?, hskip, stringChars]
    simp only [List.cons_append, List.append_assoc, List.nil_append, scanString?_body,
      String.ofList_toList]
  | .noItems hblanks =>
    rw [scanValue?, hskip]
    simp only [List.cons_append, List.append_assoc, List.nil_append, skipBlanks_append hblanks]
    rfl
  | .list hitems =>
    simp only [List.length_append, List.length_cons, List.length_nil] at hfuel
    rw [scanValue?, hskip]
    simp only [List.cons_append, List.append_assoc, List.nil_append]
    split
    · next hbracket => exact absurd (congrArg List.head? hbracket) (hitems.first _)
    · rw [scanItems?_spells hitems (by omega) rest]
  | .noMembers hblanks =>
    rw [scanValue?, hskip]
    simp only [List.cons_append, List.append_assoc, List.nil_append, skipBlanks_append hblanks]
    rfl
  | .record hmembers =>
    simp only [List.length_append, List.length_cons, List.length_nil] at hfuel
    rw [scanValue?, hskip]
    simp only [List.cons_append, List.append_assoc, List.nil_append]
    split
    · next hbrace => exact absurd (congrArg List.head? hbrace) (hmembers.first _)
    · rw [scanMembers?_spells hmembers (by omega) rest]

theorem scanItems?_spells {items : List Data} {cs : List Char} (h : SpellsItems items cs)
    {fuel : Nat} (hfuel : 2 * cs.length + 1 ≤ fuel) (rest : List Char) :
    scanItems? fuel (cs ++ ']' :: rest) = some (items, rest) := by
  obtain ⟨fuel, rfl⟩ : ∃ f, fuel = f + 1 := ⟨fuel - 1, by omega⟩
  match h with
  | .last hbefore hitem hafter =>
    simp only [List.length_append] at hfuel
    simp only [List.append_assoc]
    rw [scanItems?, scanValue?_spells hitem (by omega) hbefore (ends_blanks hafter (by simp))]
    simp only [skipBlanks_append hafter, skipBlanks_cons (show isBlank ']' = false by decide)]
  | .cons hbefore hitem hafter hmore =>
    simp only [List.length_append, List.length_cons] at hfuel
    simp only [List.append_assoc, List.cons_append]
    rw [scanItems?, scanValue?_spells hitem (by omega) hbefore (ends_blanks hafter (by simp))]
    simp only [skipBlanks_append hafter, skipBlanks_cons (show isBlank ',' = false by decide),
      scanItems?_spells hmore (show _ ≤ fuel by omega) rest]

theorem scanMembers?_spells {members : List (String × Data)} {cs : List Char}
    (h : SpellsMembers members cs) {fuel : Nat} (hfuel : 2 * cs.length + 1 ≤ fuel)
    (rest : List Char) : scanMembers? fuel (cs ++ '}' :: rest) = some (some members, rest) := by
  obtain ⟨fuel, rfl⟩ : ∃ f, fuel = f + 1 := ⟨fuel - 1, by omega⟩
  match h with
  | .last hbefore hbetween hvalue hafter =>
    simp only [List.length_append, List.length_cons] at hfuel
    simp only [List.append_assoc, List.cons_append, stringChars]
    rw [scanMembers?, skipBlanks_append hbefore, skipBlanks_cons (by decide)]
    simp only [scanString?_body, skipBlanks_cons (show isBlank ':' = false by decide),
      List.nil_append]
    rw [scanValue?_spells hvalue (by omega) hbetween (ends_blanks hafter (by simp))]
    simp only [skipBlanks_append hafter, skipBlanks_cons (show isBlank '}' = false by decide),
      Option.map_some, String.ofList_toList]
  | .cons hbefore hbetween hvalue hafter hmore =>
    simp only [List.length_append, List.length_cons] at hfuel
    simp only [List.append_assoc, List.cons_append, stringChars]
    rw [scanMembers?, skipBlanks_append hbefore, skipBlanks_cons (by decide)]
    simp only [scanString?_body, skipBlanks_cons (show isBlank ':' = false by decide),
      List.nil_append]
    rw [scanValue?_spells hvalue (by omega) hbetween (ends_blanks hafter (by simp))]
    simp only [skipBlanks_append hafter, skipBlanks_cons (show isBlank ',' = false by decide),
      scanMembers?_spells hmore (show _ ≤ fuel by omega) rest, Option.map_some, Option.bind_some,
      String.ofList_toList]

end

theorem ofChars?_spells {d : Data} {cs : List Char} (h : Spells d cs) : ofChars? cs = some d := by
  have hscan := scanValue?_spells h (show 2 * cs.length ≤ 2 * cs.length + 2 by omega) blanks_nil
    ends_nil
  rw [List.nil_append, List.append_nil] at hscan
  simp [ofChars?, hscan, skipBlanks]

/-! ## Printing -/

end Json

mutual

/-- Whether the value holds whole numbers of 64 bits only, and nothing that cannot be read. -/
def isPlain : Data → Bool
  | .null | .bool _ | .string _ => true
  | .integer n => Json.isExact n
  | .float _ | .unreadable => false
  | .list items => itemsPlain items
  | .record members => membersPlain members

def itemsPlain : List Data → Bool
  | [] => true
  | item :: items => isPlain item && itemsPlain items

def membersPlain : List (String × Data) → Bool
  | [] => true
  | (_, value) :: members => isPlain value && membersPlain members

end

theorem isPlain_list : ∀ items : List Data, (Data.list items).isPlain = items.all isPlain
  | [] => rfl
  | item :: items => congrArg (item.isPlain && ·) (isPlain_list items)

theorem isPlain_record : ∀ members : List (String × Data),
    (Data.record members).isPlain = members.all fun m => m.2.isPlain
  | [] => rfl
  | (_, value) :: members => congrArg (value.isPlain && ·) (isPlain_record members)

namespace Json

mutual

theorem spells_chars : ∀ {d : Data}, d.isPlain = true → Spells d (chars d)
  | .null, _ => .null
  | .bool true, _ => .yes
  | .bool false, _ => .no
  | .integer _, h => .integer h
  | .string s, _ => .string s
  | .list [], _ => .noItems blanks_nil
  | .list (_ :: _), h => .list (spellsItems_itemsChars (List.cons_ne_nil _ _) h)
  | .record [], _ => .noMembers blanks_nil
  | .record (_ :: _), h => .record (spellsMembers_membersChars (List.cons_ne_nil _ _) h)

theorem spellsItems_itemsChars : ∀ {items : List Data}, items ≠ [] → itemsPlain items = true →
    SpellsItems items (itemsChars items)
  | [], hne, _ => absurd rfl hne
  | [item], _, h => by
    have hitem : item.isPlain = true := (Bool.and_eq_true_iff.mp h).1
    simpa [itemsChars] using SpellsItems.last blanks_nil (spells_chars hitem) blanks_nil
  | item :: next :: items, _, h => by
    obtain ⟨hitem, hitems⟩ := Bool.and_eq_true_iff.mp h
    simpa [itemsChars] using SpellsItems.cons blanks_nil (spells_chars hitem) blanks_nil
      (spellsItems_itemsChars (List.cons_ne_nil _ _) hitems)

theorem spellsMembers_membersChars : ∀ {members : List (String × Data)}, members ≠ [] →
    membersPlain members = true → SpellsMembers members (membersChars members)
  | [], hne, _ => absurd rfl hne
  | [(name, value)], _, h => by
    have hvalue : value.isPlain = true := (Bool.and_eq_true_iff.mp h).1
    simpa [membersChars] using
      @SpellsMembers.last name _ _ _ _ _ blanks_nil blanks_nil (spells_chars hvalue) blanks_nil
  | (name, value) :: next :: members, _, h => by
    obtain ⟨hvalue, hmembers⟩ := Bool.and_eq_true_iff.mp h
    simpa [membersChars] using @SpellsMembers.cons name _ _ _ _ _ _ _ blanks_nil blanks_nil
      (spells_chars hvalue) blanks_nil
      (spellsMembers_membersChars (List.cons_ne_nil _ _) hmembers)

end

theorem blanks_space : Blanks [' '] := by
  rintro c (_ | ⟨_, ⟨⟩⟩)
  rfl

theorem blanks_lineStart (level : Nat) : Blanks (lineStart level) := by
  intro c hc
  rcases List.mem_cons.mp hc with rfl | hc
  · rfl
  · rw [List.eq_of_mem_replicate hc]
    rfl

mutual

theorem spells_prettyChars : ∀ {d : Data} (level : Nat), d.isPlain = true →
    Spells d (prettyChars level d)
  | .null, _, _ => .null
  | .bool true, _, _ => .yes
  | .bool false, _, _ => .no
  | .integer _, _, h => .integer h
  | .string s, _, _ => .string s
  | .list [], _, _ => .noItems blanks_nil
  | .list (item :: items), level, h => by
    have hitems := spellsItems_prettyItems (level + 1) (List.cons_ne_nil item items) h
      (blanks_lineStart level)
    simpa [prettyChars] using Spells.list hitems
  | .record [], _, _ => .noMembers blanks_nil
  | .record (m :: members), level, h => by
    have hmembers := spellsMembers_prettyMembers (level + 1) (List.cons_ne_nil m members) h
      (blanks_lineStart level)
    simpa [prettyChars] using Spells.record hmembers

theorem spellsItems_prettyItems : ∀ {items : List Data} (level : Nat), items ≠ [] →
    itemsPlain items = true → ∀ {after : List Char}, Blanks after →
      SpellsItems items (prettyItems level items ++ after)
  | [], _, hne, _, _, _ => absurd rfl hne
  | [item], level, _, h, _, hafter =>
    .last (blanks_lineStart level) (spells_prettyChars level (Bool.and_eq_true_iff.mp h).1) hafter
  | item :: next :: items, level, _, h, after, hafter => by
    obtain ⟨hitem, hitems⟩ := Bool.and_eq_true_iff.mp h
    simpa [prettyItems] using SpellsItems.cons (blanks_lineStart level)
      (spells_prettyChars level hitem) blanks_nil
      (spellsItems_prettyItems level (List.cons_ne_nil _ _) hitems hafter)

theorem spellsMembers_prettyMembers : ∀ {members : List (String × Data)} (level : Nat),
    members ≠ [] → membersPlain members = true → ∀ {after : List Char}, Blanks after →
      SpellsMembers members (prettyMembers level members ++ after)
  | [], _, hne, _, _, _ => absurd rfl hne
  | [(name, value)], level, _, h, after, hafter => by
    have hvalue : value.isPlain = true := (Bool.and_eq_true_iff.mp h).1
    simpa [prettyMembers] using @SpellsMembers.last name _ _ _ _ _ (blanks_lineStart level)
      blanks_space (spells_prettyChars level hvalue) hafter
  | (name, value) :: next :: members, level, _, h, after, hafter => by
    obtain ⟨hvalue, hmembers⟩ := Bool.and_eq_true_iff.mp h
    simpa [prettyMembers] using @SpellsMembers.cons name _ _ _ _ _ _ _ (blanks_lineStart level)
      blanks_space (spells_prettyChars level hvalue) blanks_nil
      (spellsMembers_prettyMembers level (List.cons_ne_nil _ _) hmembers hafter)

end

end Json

end Data
end WorkQuery
