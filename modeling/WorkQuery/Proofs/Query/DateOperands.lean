import WorkQuery.Proofs.PeriodSpelling

/-!
# WorkQuery.Proofs.Query.DateOperands

Dates in queries, each with one spelling.

* `DateMacro.Spells`: the texts that spell a macro. They are the texts that are read as it
  (`DateMacro.ofText?_iff`).
* `DateExpr.written_of_ofText?`: a date that is read is written as a quoted day or as a macro, and
  read from that again.
* `DateExpr.ofText?_canonical`: both, and the same of periods.
-/

namespace WorkQuery

/-! ## The texts that spell a macro -/

namespace DateMacro

variable {a : DateAnchor} {m : DateMacro} {s : DateShift} {cs name tail : List Char}

/-- The characters are the name of the anchor, with its at sign, but for the case of letters. -/
def IsName (a : DateAnchor) (cs : List Char) : Prop :=
  cs.map Char.toLower = a.token.toList.map Char.toLower

/-- The characters spell the shift: a sign and one to five digits, with blanks before each of them
or not. Where nothing is shifted there are no characters. -/
def SpellsShift (cs : List Char) : Option DateShift → Prop
  | none => cs = []
  | some s => ∃ gap space run, cs = gap ++ signChar s.forward :: (space ++ run) ∧
      gap.all Text.isBlank = true ∧ space.all Text.isBlank = true ∧ run.all Char.isDigit = true ∧
      1 ≤ run.length ∧ run.length ≤ maxDigits ∧ Nat.ofDigitChars 10 run 0 = s.count

/-- The characters spell the macro: the name of its anchor and then its shift, with blanks around
both or not. -/
def Spells (cs : List Char) (m : DateMacro) : Prop :=
  ∃ before name shift after, cs = before ++ (name ++ shift) ++ after ∧
    before.all Text.isBlank = true ∧ after.all Text.isBlank = true ∧
    IsName m.anchor name ∧ SpellsShift shift m.shift

/-! ## Names -/

theorem isName_of_ofLetters? {letters : List Char} (h : DateAnchor.ofLetters? letters = some a) :
    IsName a ('@' :: letters) := by
  have hsame := List.find?_some h
  rw [beq_iff_eq] at hsame
  exact hsame.symm

theorem IsName.letters (h : IsName a name) : ∃ letters, name = '@' :: letters ∧
    (∀ c ∈ letters, c.isAlpha = true) ∧ DateAnchor.ofLetters? letters = some a := by
  obtain ⟨htoken, -, hfind⟩ := anchor_chars a
  rw [IsName, htoken, List.map_cons] at h
  obtain ⟨c, letters, rfl, hat, hlower⟩ := List.map_eq_cons_iff.mp h
  have hc : c = '@' := by
    have hletter : c.isAlpha = false := by
      rw [← Text.isAlpha_toLower, hat]
      decide
    rw [← Text.toLower_of_not_letter hletter, hat]
    rfl
  subst hc
  refine ⟨letters, rfl, fun c hc => ?_, ?_⟩
  · have hletters : ((anchorLetters a).map Char.toLower).all Char.isAlpha = true := by
      cases a <;> decide
    rw [← Text.isAlpha_toLower]
    exact List.all_eq_true.mp hletters _ (hlower ▸ List.mem_map_of_mem hc)
  · -- the case of the letters has no part in what they name
    rw [← hfind]
    simp only [DateAnchor.ofLetters?, hlower]

/-! ## Shifts -/

theorem readShift?_iff : readShift? cs = some s ↔ SpellsShift cs (some s) := by
  constructor
  · intro h
    unfold readShift? at h
    split at h
    · rename_i c rest hrest
      split at h
      · rename_i hsign
        simp only [] at h
        split at h
        · rename_i hmost
          obtain ⟨n, hn, rfl⟩ := Option.map_eq_some_iff.mp h
          obtain ⟨hne, hrun, hvalue⟩ := Numeral.readDigits?_iff.mp hn
          have hchar : signChar (c = '+') = c := by
            rcases hsign with rfl | rfl <;> rfl
          refine ⟨cs.takeWhile Text.isBlank, rest.takeWhile Text.isBlank, _, ?_, List.all_takeWhile,
            List.all_takeWhile, hrun, List.length_pos_of_ne_nil hne, hmost, hvalue⟩
          rw [hchar, List.takeWhile_append_dropWhile, ← hrest, List.takeWhile_append_dropWhile]
        · cases h
      · cases h
    · cases h
  · rintro ⟨gap, space, run, rfl, hgap, hspace, hrun, hleast, hmost, hvalue⟩
    obtain ⟨forward, count⟩ := s
    have hread := Numeral.readDigits?_iff.mpr ⟨List.ne_nil_of_length_pos hleast, hrun, hvalue⟩
    have hsign : (gap ++ signChar forward :: (space ++ run)).dropWhile Text.isBlank =
        signChar forward :: (space ++ run) := Text.dropWhile_isBlank_append hgap fun c hc => by
      cases hc
      cases forward <;> decide
    have hdigits : (space ++ run).dropWhile Text.isBlank = run :=
      Text.dropWhile_isBlank_append hspace fun c hc =>
        Text.isBlank_of_isDigit (List.all_eq_true.mp hrun c (List.mem_of_mem_head? hc))
    unfold readShift?
    rw [hsign]
    cases forward <;> simp [signChar, hdigits, hmost, hread]

section Ends

variable {shift : Option DateShift} (h : SpellsShift cs shift)

include h

/-- The letters of a name end where its shift begins. -/
theorem SpellsShift.head_not_letter : ∀ c ∈ cs.head?, c.isAlpha = false := by
  cases shift with
  | none =>
    obtain rfl := h
    exact nofun
  | some s =>
    obtain ⟨gap, space, run, rfl, hgap, -⟩ := h
    intro c hc
    cases gap with
    | nil =>
      cases hc
      cases s.forward <;> decide
    | cons d gap =>
      cases hc
      have hblank := List.all_eq_true.mp hgap c List.mem_cons_self
      rw [Bool.eq_false_iff]
      intro halpha
      rw [Text.isBlank_of_isAlpha halpha] at hblank
      cases hblank

theorem SpellsShift.last_not_blank : ∀ c ∈ cs.getLast?, Text.isBlank c = false := by
  cases shift with
  | none =>
    obtain rfl := h
    exact nofun
  | some s =>
    obtain ⟨gap, space, run, rfl, -, -, hrun, hleast, -⟩ := h
    intro c hc
    rw [← List.cons_append, ← List.append_assoc,
      List.getLast?_append_of_ne_nil _ (List.ne_nil_of_length_pos hleast)] at hc
    exact Text.isBlank_of_isDigit (List.all_eq_true.mp hrun c (List.mem_of_mem_getLast? hc))

end Ends

/-! ## Macros -/

/-- What follows the name of an anchor is read as the shift that it spells. -/
theorem readTail_iff : (match tail with
      | [] => some (DateMacro.mk a none)
      | tail => (readShift? tail).map fun shift => ⟨a, some shift⟩) = some m ↔
    a = m.anchor ∧ SpellsShift tail m.shift := by
  obtain ⟨anchor, shift⟩ := m
  cases tail with
  | nil =>
    cases shift with
    | none => simp [SpellsShift]
    | some s => simp [← readShift?_iff, readShift?]
  | cons c tail =>
    cases shift with
    | none => simp [SpellsShift]
    | some s => simp [← readShift?_iff, and_comm]

/-- The texts that are read as a macro are those that spell it. -/
theorem ofChars?_iff : ofChars? cs = some m ↔ Spells cs m := by
  constructor
  · intro h
    obtain ⟨before, after, hcs, hbefore, hafter⟩ := Text.trimChars_split cs
    unfold ofChars? at h
    split at h
    · rename_i rest hbody
      simp only [] at h
      split at h
      · cases h
      · rename_i a hfind
        obtain ⟨rfl, hshift⟩ := readTail_iff.mp h
        have hrest : rest.takeWhile Char.isAlpha ++ rest.drop (rest.takeWhile Char.isAlpha).length =
            rest := List.prefix_iff_eq_append.mp (List.takeWhile_prefix _)
        refine ⟨before, '@' :: rest.takeWhile Char.isAlpha, _, after, ?_, hbefore, hafter,
          isName_of_ofLetters? hfind, hshift⟩
        rw [List.cons_append, hrest, ← hbody]
        exact hcs
    · cases h
  · rintro ⟨before, name, shift, after, rfl, hbefore, hafter, hname, hshift⟩
    obtain ⟨letters, rfl, halpha, hfind⟩ := hname.letters
    have htrim : Text.trimChars ('@' :: letters ++ shift) = '@' :: (letters ++ shift) := by
      have hat : Text.isBlank '@' = false := by decide
      refine Text.trimChars_eq_self (fun c hc => by cases hc; exact hat) fun c hc => ?_
      rw [List.getLast?_append, Option.mem_def, Option.or_eq_some_iff] at hc
      rcases hc with hc | ⟨-, hc⟩
      · exact hshift.last_not_blank c hc
      · rcases List.mem_cons.mp (List.mem_of_mem_getLast? hc) with rfl | hc
        · exact hat
        · exact Text.isBlank_of_isAlpha (halpha c hc)
    have hrun : (letters ++ shift).takeWhile Char.isAlpha = letters := by
      rw [List.takeWhile_append_of_pos halpha]
      cases shift with
      | nil => exact List.append_nil letters
      | cons c shift =>
        rw [List.takeWhile_cons_of_neg (by simp [hshift.head_not_letter c rfl]), List.append_nil]
    rw [ofChars?, Text.trimChars_surrounded hbefore hafter, htrim]
    simp only [hrun, hfind, List.drop_left]
    exact readTail_iff.mpr ⟨rfl, hshift⟩

theorem ofText?_iff {text : String} : ofText? text = some m ↔ Spells text.toList m := ofChars?_iff

end DateMacro

/-! ## Days -/

/-- No quote is in a written date, so that none is written twice. -/
theorem Date.literal_text (d : Date) : Quote.literal d.text = "'" ++ d.text ++ "'" := by
  have hkept : ∀ c ∈ d.toChars, (if c = '\'' then ['\'', '\''] else [c]) = [c] := by
    intro c hc
    rw [if_neg]
    rintro rfl
    exact absurd (isDateChar_of_mem hc) (by decide)
  rw [Quote.literal, Quote.escape, text, String.toList_ofList, Quote.escapeChars,
    List.flatMap_congr hkept, List.flatMap_singleton']

/-! ## All of it -/

namespace DateExpr

/-- A date that is read is written as a quoted day that is read as this date again, or as a macro
that is read as itself. -/
theorem written_of_ofText? {today : Date} {text : String} {e : DateExpr}
    (h : ofText? today text = some e) :
    (∃ d : Date, e.text = "'" ++ d.text ++ "'" ∧ ofText? today d.text = some e) ∨
      ∃ m : DateMacro, e.text = m.text ∧ DateMacro.ofText? m.text = some m := by
  cases e with
  | relative m => exact .inr ⟨m, rfl, DateMacro.ofText?_text (ofText?_short h)⟩
  | day d => exact .inl ⟨d, d.literal_text, ofText?_text today d⟩

/-- Dates in queries have one spelling each. A date that is read is written as a quoted day, which is
read as the same date, or as a macro, which is read as itself; so is every macro that a period is
resolved to, if the period is one that is read. A macro is read from the texts that spell it and
from no others, and a period that is read from some text is read from its token. -/
theorem ofText?_canonical :
    (∀ today text e, ofText? today text = some e →
      (∃ d : Date, e.text = "'" ++ d.text ++ "'" ∧ ofText? today d.text = some e) ∨
        ∃ m : DateMacro, e.text = m.text ∧ DateMacro.ofText? m.text = some m) ∧
    (∀ today text p m, RelativePeriod.ofText? text = some p → p.resolve today = .relative m →
      DateMacro.ofText? m.text = some m) ∧
    (∀ text m, DateMacro.ofText? text = some m ↔ DateMacro.Spells text.toList m) ∧
    ∀ text p, RelativePeriod.ofText? text = some p → RelativePeriod.ofText? p.token = some p := by
  refine ⟨fun _ _ _ => written_of_ofText?, fun today text p m hread hresolve => ?_,
    fun _ _ => DateMacro.ofText?_iff, fun text p hread => ?_⟩
  · have hshort := RelativePeriod.resolve_short (RelativePeriod.ofText?_short hread) hresolve
    exact DateMacro.ofText?_text hshort
  · exact RelativePeriod.ofText?_token (RelativePeriod.ofText?_isCounted hread)

/-- The longest period that is read, named with a sign and in capitals; a day with one digit for its
month; a macro with zeros, capitals and blanks that are no spaces. -/
theorem ofText?_canonical_longest :
    let day : Date := ⟨2024, 2, 29, by decide⟩
    let shifted : DateMacro := ⟨.today, some ⟨false, 25550⟩⟩
    ofText? day "2024-2-29T9:30:00" = some (.day day) ∧
    ((∃ d : Date, (DateExpr.day day).text = "'" ++ d.text ++ "'" ∧
        ofText? day d.text = some (.day day)) ∨
      ∃ m : DateMacro, (DateExpr.day day).text = m.text ∧ DateMacro.ofText? m.text = some m) ∧
    RelativePeriod.ofText? "PAST +3650-weeks" = some (.lastWeeks 3650) ∧
    (RelativePeriod.lastWeeks 3650).resolve day = .relative shifted ∧
    DateMacro.ofText? shifted.text = some shifted ∧
    RelativePeriod.ofText? (RelativePeriod.lastWeeks 3650).token = some (.lastWeeks 3650) ∧
    DateMacro.Spells "\t@STARTOFweek -\u00a000007 ".toList ⟨.startOfWeek, some ⟨false, 7⟩⟩ := by
  intro day shifted
  obtain ⟨hwritten, hmacro, hspells, htoken⟩ := ofText?_canonical
  have hday : ofText? day "2024-2-29T9:30:00" = some (.day day) := by decide
  have hperiod : RelativePeriod.ofText? "PAST +3650-weeks" = some (.lastWeeks 3650) := by decide
  have hresolve : (RelativePeriod.lastWeeks 3650).resolve day = .relative shifted := rfl
  exact ⟨hday, hwritten _ _ _ hday, hperiod, hresolve, hmacro _ _ _ _ hperiod hresolve,
    htoken _ _ hperiod, (hspells _ _).mp (by decide)⟩

/-- Six digits are too many for a shift; no digit beyond ASCII is one, nor is a letter that has one of
the name's as its capital. -/
example : DateMacro.ofText? "@today-000007" = none ∧ DateMacro.ofText? "@today-\u0667" = none ∧
    DateMacro.ofText? "@\u017ftartofday" = none := by decide

end DateExpr
end WorkQuery
