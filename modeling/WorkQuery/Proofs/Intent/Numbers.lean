import WorkQuery.Proofs.Intent.Recognition
import WorkQuery.Proofs.Text.Matching
import WorkQuery.Proofs.Text.Runs

/-!
# WorkQuery.Proofs.Intent.Numbers

The item numbers that are read from an utterance are numbers that stand in it with all of their
digits (`Criteria.mem_ids`). A pattern takes nine digits at most, so the places before and after
them count: no digit stands before (`Pattern.Leads.no_digit_before`), and at a boundary of words
none follows (`digitRuns_of_boundary`).
-/

namespace WorkQuery

open Pattern Text

/-! ## Digits between other characters -/

namespace Place

variable {s e : Place} {t text : List Char}

/-- The character before a place in a text is the last one of what stands before it. -/
theorem IsIn.split (h : s.IsIn text) :
    ∃ left, text = left ++ s.rest ∧ s.before = left.getLast? := by
  obtain ⟨left, hleft⟩ := h
  exact ⟨left, hleft.rest, by rw [hleft.before, start, Option.or_none]⟩

/-- A block that no digit precedes and that ends with a digit at a boundary: its numbers are numbers
of the text. -/
theorem Spans.digitRuns_subset (hspan : s.Spans t e) (hin : s.IsIn text)
    (hbefore : ∀ c ∈ s.before, isDecimalDigit c = false)
    (hlast : ∃ c ∈ e.before, isDecimalDigit c = true) (hboundary : isBoundary e = true) :
    digitRuns t ⊆ digitRuns text := by
  obtain ⟨left, htext, hleft⟩ := hin.split
  obtain ⟨d, hd, hdigit⟩ := hlast
  -- the last digit belongs to a word, and so at the boundary no digit follows
  have hafter : ∀ c ∈ e.rest.head?, isNoDigit c = true := by
    intro c hc
    rw [Option.mem_def] at hd hc
    simp only [isBoundary, hd, hc, Option.map_some, Option.getD_some,
      isWordChar_of_isDecimalDigit hdigit, bne_iff_ne, ne_eq] at hboundary
    rw [isNoDigit_iff, Bool.eq_false_iff]
    exact fun hc => hboundary (isWordChar_of_isDecimalDigit hc).symm
  have hbefore' : ∀ c ∈ left.getLast?, isNoDigit c = true := fun c hc =>
    isNoDigit_iff.mpr (hbefore c (hleft ▸ hc))
  rw [htext, hspan.rest]
  unfold digitRuns
  rw [splitNonempty_append (.inl hbefore'), splitNonempty_append (.inr hafter)]
  exact fun run hrun => List.mem_append_right _ (List.mem_append_left _ hrun)

end Place

namespace Pattern

/-- No digit stands before a place to which a pattern leads that takes something, but no digit. -/
theorem Leads.no_digit_before {p : Pattern} {a s : Place} (h : p.Leads a s)
    (hover : p.Over isNoDigit) (hleast : 0 < p.least) :
    ∀ c ∈ s.before, isDecimalDigit c = false := by
  obtain ⟨span, hspan, hall⟩ := h.over hover
  have hlength := h.least_le hspan
  have hne : span ≠ [] := List.ne_nil_of_length_pos (by omega)
  intro c hc
  rw [Option.mem_def, hspan.before, List.getLast?_eq_some_getLast hne, Option.some_or] at hc
  cases hc
  exact isNoDigit_iff.mp (hall _ (List.getLast_mem hne))

/-- Where digits have been taken, a digit stands before. -/
theorem Leads.digit_before {least : Nat} {most : Option Nat} {a b : Place}
    (h : (Pattern.run isDecimalDigit (least + 1) most).Leads a b) :
    ∃ c ∈ b.before, isDecimalDigit c = true := by
  obtain ⟨span, hspan, -, hall, hleast, -⟩ := h
  have hne : span ≠ [] := List.ne_nil_of_length_pos (by omega)
  refine ⟨span.getLast hne, ?_, hall _ (List.getLast_mem hne)⟩
  rw [Option.mem_def, hspan.before, List.getLast?_eq_some_getLast hne, Option.some_or]

theorem over_all {ok : Char → Bool} {ps : List Pattern} (h : ∀ p ∈ ps, p.Over ok) :
    (all ps).Over ok := by
  induction ps with
  | nil => trivial
  | cons p ps ih =>
    have hp := h p (by simp)
    cases ps with
    | nil => exact hp
    | cons q ps => exact ⟨hp, ih fun r hr => h r (List.mem_cons_of_mem _ hr)⟩

/-- What is found for a small letter is no digit. -/
theorem isDecimalDigit_of_isLetter {letter c : Char} (hlow : 97 ≤ letter.toNat)
    (hhigh : letter.toNat ≤ 122) (h : isLetter letter c = true) : isDecimalDigit c = false := by
  have hodd : ∀ n ∈ [0x17F, 0x212A], isDecimalDigit (Char.ofNat n) = false := by decide
  rw [← Char.ofNat_toNat c] at h ⊢
  simp only [isLetter, Bool.or_eq_true, Bool.and_eq_true, beq_iff_eq, Char.ofNat_toNat] at h
  rcases h with (hsame | ⟨-, hs⟩) | ⟨-, hk⟩
  · have hcode : 65 ≤ c.toNat ∧ c.toNat ≤ 122 := by
      rcases toLower_cases c with hc | ⟨hc, hc', -⟩
      · rw [hc] at hsame
        rw [hsame]
        omega
      · omega
    have hascii : isAscii c = true := by simp only [isAscii, decide_eq_true_eq]; omega
    have h9 : '9'.toNat = 57 := rfl
    rw [Char.ofNat_toNat, isDecimalDigit, if_pos hascii, Bool.eq_false_iff, ne_eq,
      Char.isDigit_iff_toNat]
    omega
  · exact hs ▸ hodd _ (by simp)
  · exact hk ▸ hodd _ (by simp)

theorem over_word {w : String} (h : ∀ c ∈ w.toList, 97 ≤ c.toNat ∧ c.toNat ≤ 122) :
    (word w).Over isNoDigit := by
  refine over_all fun p hp => ?_
  obtain ⟨letter, hletter, rfl⟩ := List.mem_map.mp hp
  exact fun c hc => isNoDigit_iff.mpr
    (isDecimalDigit_of_isLetter (h letter hletter).1 (h letter hletter).2 hc)

theorem over_blanks (n : Nat) : (blanks n).Over isNoDigit := fun _ hc =>
  isNoDigit_iff.mpr (isDecimalDigit_of_isBlank hc)

theorem over_char {c : Char} (h : isDecimalDigit c = false) :
    (char c).Over isNoDigit := by
  intro d hd
  rw [beq_iff_eq.mp hd]
  exact isNoDigit_iff.mpr h

end Pattern

/-! ## Numbers in a text -/

namespace Patterns

theorem head?_number (before : Option Char) (rest : List Char) :
    (number.outcomes ⟨before, rest, []⟩).head? =
      if 1 ≤ (rest.takeWhile isDecimalDigit).length then
        some ⟨(rest.takeWhile isDecimalDigit).getLast?.or before, rest.dropWhile isDecimalDigit,
          [(1, rest, rest.dropWhile isDecimalDigit)]⟩
      else none := by
  rw [number, outcomes, List.head?_map, outcomes, Option.getD_none, head?_runFrom _ (Nat.le_refl _)]
  split <;> rfl

/-- The first number found is the first one there is, with all of its digits. -/
theorem findFrom_number {before : Option Char} {rest : List Char} {b : Place}
    (h : number.findFrom before rest = some b) :
    ∃ run, digitRuns rest = run :: digitRuns b.rest ∧ b.text? 1 = some run := by
  induction rest generalizing before with
  | nil => cases h
  | cons c tail ih =>
    rw [findFrom_eq, head?_number] at h
    by_cases hc : isDecimalDigit c = true
    · have hsome : 1 ≤ ((c :: tail).takeWhile isDecimalDigit).length := by
        simp [List.takeWhile_cons_of_pos hc]
      rw [if_pos hsome, Option.some_or] at h
      cases h
      refine ⟨_, digitRuns_cons hc tail, ?_⟩
      have hspan : Place.Spans ⟨before, c :: tail, []⟩ ((c :: tail).takeWhile isDecimalDigit)
          ⟨((c :: tail).takeWhile isDecimalDigit).getLast?.or before,
            (c :: tail).dropWhile isDecimalDigit, []⟩ :=
        ⟨List.takeWhile_append_dropWhile.symm, rfl⟩
      exact congrArg some hspan.take
    · have hnone : ¬1 ≤ ((c :: tail).takeWhile isDecimalDigit).length := by
        simp [List.takeWhile_cons_of_neg hc]
      rw [if_neg hnone, Option.none_or] at h
      obtain ⟨run, hruns, htext⟩ := ih h
      refine ⟨run, ?_, htext⟩
      rw [← hruns]
      exact splitNonempty_cons (isNoDigit_iff.mpr (Bool.eq_false_iff.mpr hc)) tail

/-- The numbers found in a text are those there are. -/
theorem findAll_number {text : List Char} {b : Place} (h : b ∈ number.findAll text) :
    ∃ run ∈ digitRuns text, b.text? 1 = some run := by
  have hrun : ∀ (fuel : Nat) {before : Option Char} {rest : List Char},
      b ∈ number.findAllFrom fuel before rest → ∃ run ∈ digitRuns rest, b.text? 1 = some run := by
    intro fuel
    induction fuel with
    | zero =>
      intro before rest hb
      exact absurd hb List.not_mem_nil
    | succ fuel ih =>
      intro before rest hb
      rw [findAllFrom] at hb
      split at hb
      · exact absurd hb List.not_mem_nil
      · rename_i place hplace
        obtain ⟨first, hruns, hfirst⟩ := findFrom_number hplace
        rw [hruns]
        rcases List.mem_cons.mp hb with rfl | hb
        · exact ⟨first, List.mem_cons_self, hfirst⟩
        · obtain ⟨run, hrun, htext⟩ := ih hb
          exact ⟨run, List.mem_cons_of_mem _ hrun, htext⟩
  exact hrun _ h

/-! ## Item numbers -/

/-- What `#1234` keeps. -/
theorem hashId_text {text : List Char} {b : Place} (h : hashId.Matches text b) :
    ∃ run ∈ digitRuns text, run.length ≤ 9 ∧ b.text? 1 = some run := by
  obtain ⟨a, hin, -, hleads⟩ := h
  obtain ⟨s, e, t, hgap, hdigits, hspan, hboundary, htext⟩ :=
    leads_capture_boundary [char '#'] hleads
  obtain ⟨left, hleft⟩ := hgap.spans
  have hbefore := hgap.no_digit_before (over_char (by decide)) (by decide)
  have hsubset := hspan.digitRuns_subset (hin.spans hleft) hbefore hdigits.digit_before hboundary
  obtain ⟨t', ht', -, hall, hleast, hmost⟩ := hdigits
  obtain rfl := hspan.unique ht'
  have hne : t ≠ [] := List.ne_nil_of_length_pos hleast
  refine ⟨t, hsubset ?_, hmost 9 rfl, htext⟩
  rw [digitRuns_digits hne hall]
  exact List.mem_singleton_self t

/-- What stands between the numbers of a list. -/
def separator : List Pattern :=
  [blanks 0, oneOf [char ',', word "and"], blanks 0, optional (char '#')]

/-- A list of numbers, of nine digits each at most. -/
def numberList : Pattern := .seq (digits 1 9) (.many (all (separator ++ [digits 1 9])))

theorem separator_over : (all separator).Over isNoDigit := by
  have hand : (word "and").Over isNoDigit := over_word (by simp)
  refine over_all ?_
  simp only [separator, List.forall_mem_cons]
  exact ⟨over_blanks 0, ⟨over_char (by decide), hand⟩, over_blanks 0,
    ⟨over_char (by decide), trivial⟩, nofun⟩

theorem digits_text {a b : Place} (h : (digits 1 9).Leads a b) :
    ∃ t, a.Spans t b ∧ digitRuns t = [t] ∧ t.length ≤ 9 := by
  obtain ⟨t, ht, -, hall, hleast, hmost⟩ := h
  exact ⟨t, ht, digitRuns_digits (List.ne_nil_of_length_pos hleast) hall, hmost 9 rfl⟩

/-- Each number of a list has nine digits at most; after the list stands a digit. -/
theorem numberList_text {a b : Place} (h : numberList.Leads a b) :
    ∃ t, a.Spans t b ∧ (∀ run ∈ digitRuns t, run.length ≤ 9) ∧
      ∃ c ∈ b.before, isDecimalDigit c = true := by
  obtain ⟨m, hfirst, hmore⟩ := h
  induction hmore with
  | refl =>
    obtain ⟨t, ht, hruns, hlength⟩ := digits_text hfirst
    refine ⟨t, ht, ?_, hfirst.digit_before⟩
    rw [hruns]
    exact List.forall_mem_singleton.mpr hlength
  | tail _ hstep ih =>
    obtain ⟨t, ht, hshort, -⟩ := ih
    obtain ⟨n, hsep, hdigits⟩ := leads_all_append.mp hstep
    obtain ⟨gap, hgap, hall⟩ := hsep.over separator_over
    obtain ⟨more, hmore, hruns, hlength⟩ := digits_text hdigits
    refine ⟨t ++ (gap ++ more), ht.trans (hgap.trans hmore), ?_, hdigits.digit_before⟩
    -- the gap is not empty, so that no digit of the new number belongs to the one before it
    have hne : gap ≠ [] := by
      have hleast : 1 ≤ gap.length := hsep.least_le hgap
      exact List.ne_nil_of_length_pos hleast
    have hhead : ∀ c ∈ (gap ++ more).head?, isNoDigit c = true := by
      intro c hc
      rw [List.head?_append_of_ne_nil _ hne] at hc
      exact hall c (List.mem_of_mem_head? hc)
    have hlast : ∀ c ∈ gap.getLast?, isNoDigit c = true := fun c hc =>
      hall c (List.mem_of_mem_getLast? hc)
    have hparts : digitRuns (t ++ (gap ++ more)) = digitRuns t ++ [more] := by
      rw [digitRuns, splitNonempty_append (.inr hhead), splitNonempty_append (.inl hlast),
        splitNonempty_eq_nil hall, List.nil_append]
      exact congrArg _ hruns
    rw [hparts]
    exact List.forall_mem_append.mpr ⟨hshort, List.forall_mem_singleton.mpr hlength⟩

/-- What `items 5, 6 and #7` keeps. -/
theorem nounIds_text {text : List Char} {b : Place} (h : nounIds.Matches text b) :
    ∃ t, b.text? 1 = some t ∧ ∀ run ∈ digitRuns t, run ∈ digitRuns text ∧ run.length ≤ 9 := by
  obtain ⟨a, hin, -, hleads⟩ := h
  obtain ⟨_, ⟨-, rfl⟩, hrest⟩ := leads_all_cons.mp hleads
  obtain ⟨m, hnoun, hrest⟩ := leads_all_cons.mp hrest
  obtain ⟨s, e, t, hgap, hlist, hspan, hboundary, htext⟩ :=
    leads_capture_boundary [blanks 1, optional (char '#')] hrest
  obtain ⟨noun, hnoun⟩ := hnoun.spans
  obtain ⟨gap, hgapSpan⟩ := hgap.spans
  have hbefore := hgap.no_digit_before ⟨over_blanks 1, over_char (by decide), trivial⟩ (by decide)
  obtain ⟨t', ht', hshort, hlast⟩ := numberList_text hlist
  obtain rfl := hspan.unique ht'
  have hsubset := hspan.digitRuns_subset ((hin.spans hnoun).spans hgapSpan) hbefore hlast hboundary
  exact ⟨t, htext, fun run hrun => ⟨hsubset hrun, hshort run hrun⟩⟩

end Patterns

namespace Criteria

/-- An item number is positive and stands in the text with all of its digits, nine at most. -/
theorem mem_ids {text : List Char} {id : Nat} (h : id ∈ ids text) :
    0 < id ∧ ∃ run ∈ digitRuns text, run.length ≤ 9 ∧ Numeral.readDigits? run = some id := by
  have hmem := List.mem_filter.mp (mem_withoutRepeats.mp h)
  refine ⟨by simpa using hmem.2, ?_⟩
  rcases List.mem_append.mp hmem.1 with hid | hid
  · obtain ⟨place, hplace, hnumber⟩ := List.mem_filterMap.mp hid
    obtain ⟨run, hrun, hshort, htext⟩ := Patterns.hashId_text (matches_of_findAll hplace)
    rw [numberOf?, htext] at hnumber
    exact ⟨run, hrun, hshort, hnumber⟩
  · obtain ⟨place, hplace, hnumbers⟩ := List.mem_flatMap.mp hid
    obtain ⟨number, hnumber, hvalue⟩ := List.mem_filterMap.mp hnumbers
    obtain ⟨t, htext, hruns⟩ := Patterns.nounIds_text (matches_of_findAll hplace)
    rw [htext, Option.getD_some] at hnumber
    obtain ⟨run, hrun, hkept⟩ := Patterns.findAll_number hnumber
    rw [numberOf?, hkept] at hvalue
    exact ⟨run, (hruns run hrun).1, (hruns run hrun).2, hvalue⟩

end Criteria
end WorkQuery
