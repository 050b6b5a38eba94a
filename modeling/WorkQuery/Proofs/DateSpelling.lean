import WorkQuery.Proofs.Spelling
import WorkQuery.Query.Render

/-!
# WorkQuery.Proofs.DateSpelling

Dates that are written are read back, and as nothing else.

* `Date.ofChars?_toChars`, `DateExpr.ofText?_text`: a day. Its text has no letter, so no words of a
  period and no macro are read from it.
* `DateMacro.ofText?_text`: a macro whose shift has no more digits than one may have
  (`DateMacro.IsShort`); those that are read are of this kind.
* `RelativePeriod.ofText?_short`: the macro of a period that is read is, too.
-/

namespace WorkQuery

open Numeral

namespace Date

/-! ## Days -/

theorem yearChars_eq (year : Int) :
    yearChars year = padded 4 year.toNat ∧ 0 ≤ year ∧ year ≤ 9999 ∨
      yearChars year = '+' :: padded 4 year.toNat ∧ 0 ≤ year ∨
      yearChars year = '-' :: padded 4 (-year).toNat ∧ year < 0 := by
  unfold yearChars
  split
  · rename_i h
    exact .inl ⟨rfl, h⟩
  · split
    · rename_i h
      exact .inr (.inl ⟨rfl, h⟩)
    · rename_i h
      exact .inr (.inr ⟨rfl, by omega⟩)

theorem scanYear?_yearChars (year : Int) {rest : List Char}
    (hrest : ∀ c ∈ rest.head?, c.isDigit = false) :
    scanYear? (yearChars year ++ rest) = some (year, rest) := by
  have hplus : Text.isBlank '+' = false := by decide
  have hminus : Text.isBlank '-' = false := by decide
  rcases yearChars_eq year with ⟨htext, hlow, hhigh⟩ | ⟨htext, hlow⟩ | ⟨htext, hneg⟩
  · obtain ⟨c, cs, hcs, hc⟩ := padded_eq_cons 4 year.toNat
    have hscan : scanNumber? (some 4) (padded 4 year.toNat ++ rest) = some (year.toNat, rest) :=
      scanNumber?_padded (by
        intro k hk
        cases hk
        exact length_padded_le (by decide) (by omega)) hrest
    have hneg : c ≠ '-' := by rintro rfl; exact absurd hc (by decide)
    have hpos : c ≠ '+' := by rintro rfl; exact absurd hc (by decide)
    have hblank := Text.isBlank_of_isDigit hc
    rw [hcs, List.cons_append] at hscan
    rw [htext, hcs]
    simp [scanYear?, hblank, hneg, hpos, hscan]
    omega
  · have hscan : scanNumber? none (padded 4 year.toNat ++ rest) = some (year.toNat, rest) :=
      scanNumber?_padded (by simp) hrest
    rw [htext]
    simp [scanYear?, hplus, hscan]
    omega
  · have hscan : scanNumber? none (padded 4 (-year).toNat ++ rest) = some ((-year).toNat, rest) :=
      scanNumber?_padded (by simp) hrest
    rw [htext]
    simp [scanYear?, hminus, hscan]
    omega

theorem scanTwoDigits?_padded {n : Nat} (hn : n < 100) {rest : List Char}
    (hrest : ∀ c ∈ rest.head?, c.isDigit = false) :
    scanTwoDigits? (padded 2 n ++ rest) = some (n, rest) := by
  obtain ⟨c, cs, hcs, hc⟩ := padded_eq_cons 2 n
  have hscan : scanNumber? (some 2) (padded 2 n ++ rest) = some (n, rest) :=
    scanNumber?_padded (by
      intro k hk
      cases hk
      exact length_padded_le (by decide) hn) hrest
  have hkeep : (padded 2 n ++ rest).dropWhile Text.isBlank = padded 2 n ++ rest := by
    rw [hcs, List.cons_append, List.dropWhile_cons_of_neg (by simp [Text.isBlank_of_isDigit hc])]
  rw [scanTwoDigits?, hkeep, hscan]

theorem month_day_lt (d : Date) : d.month < 100 ∧ d.day < 100 := by
  have h := d.valid
  have hdays : daysInMonth d.year d.month ≤ 31 := by
    unfold daysInMonth
    repeat' split
    all_goals omega
  simp only [occurs, Bool.and_eq_true, decide_eq_true_eq] at h
  omega

theorem scanParts?_toChars (spaced : Bool) (d : Date) :
    scanParts? spaced d.toChars = some ((d.year, d.month, d.day), []) := by
  obtain ⟨hmonth, hday⟩ := d.month_day_lt
  have hdash : ∀ (rest : List Char), ∀ c ∈ ('-' :: rest).head?, c.isDigit = false := by
    intro rest c hc
    cases hc
    rfl
  have hyear := scanYear?_yearChars d.year (hdash (padded 2 d.month ++ '-' :: padded 2 d.day))
  have hmonths := scanTwoDigits?_padded hmonth (hdash (padded 2 d.day))
  have hdays : scanTwoDigits? (padded 2 d.day) = some (d.day, []) := by
    have hscan : scanTwoDigits? (padded 2 d.day ++ []) = _ := scanTwoDigits?_padded hday (by simp)
    rwa [List.append_nil] at hscan
  have hmark : ∀ rest, scanMark? spaced '-' ('-' :: rest) = some rest := by
    intro rest
    have hkeep : ('-' :: rest).dropWhile Text.isBlank = '-' :: rest :=
      List.dropWhile_cons_of_neg (by decide)
    cases spaced with
    | false => rfl
    | true => rw [scanMark?, if_pos rfl, hkeep]; rfl
  simp [scanParts?, toChars, hyear, hmark, hmonths, hdays]

/-- A written date is read as that date. -/
theorem ofChars?_toChars (d : Date) : ofChars? d.toChars = some d := by
  rw [ofChars?, scanParts?_toChars]
  simp [ofParts?, d.valid]

theorem ofSpacedChars?_toChars (d : Date) : ofSpacedChars? d.toChars = some d := by
  rw [ofSpacedChars?, scanParts?_toChars]
  simp [ofParts?, d.valid]

/-- A written date has digits and signs only. -/
theorem isDateChar_of_mem {d : Date} {c : Char} (h : c ∈ d.toChars) :
    c.isDigit = true ∨ c = '+' ∨ c = '-' := by
  have hyear : ∀ c ∈ yearChars d.year, c.isDigit = true ∨ c = '+' ∨ c = '-' := by
    intro c hc
    rcases yearChars_eq d.year with ⟨htext, _⟩ | ⟨htext, _⟩ | ⟨htext, _⟩
    · rw [htext] at hc
      exact .inl (isDigit_of_mem_padded hc)
    · rw [htext] at hc
      rcases List.mem_cons.mp hc with rfl | hc
      · exact .inr (.inl rfl)
      · exact .inl (isDigit_of_mem_padded hc)
    · rw [htext] at hc
      rcases List.mem_cons.mp hc with rfl | hc
      · exact .inr (.inr rfl)
      · exact .inl (isDigit_of_mem_padded hc)
  simp only [toChars, List.mem_append, List.mem_cons] at h
  rcases h with (hc | rfl | hc) | rfl | hc
  · exact hyear c hc
  · exact .inr (.inr rfl)
  · exact .inl (isDigit_of_mem_padded hc)
  · exact .inr (.inr rfl)
  · exact .inl (isDigit_of_mem_padded hc)

theorem isBlank_of_mem {d : Date} {c : Char} (h : c ∈ d.toChars) : Text.isBlank c = false := by
  rcases isDateChar_of_mem h with hc | rfl | rfl
  · exact Text.isBlank_of_isDigit hc
  · decide
  · decide

theorem trimChars_toChars (d : Date) : Text.trimChars d.toChars = d.toChars :=
  Text.trimChars_of_no_blank fun _ hc => isBlank_of_mem hc

end Date

/-! ## Periods -/

namespace RelativePeriod

/-- The words that the words of a period can begin with. -/
def firstWords : List String := ["today", "yesterday", "this", "start", "last", "previous", "past"]

theorem ofWords?_first {ws : List String} {p : RelativePeriod} (h : ofWords? ws = some p) :
    ∃ w ∈ firstWords, w ∈ ws := by
  unfold ofWords? at h
  split at h
  all_goals first | cases h; done | exact ⟨_, by simp [firstWords], List.mem_cons_self⟩

theorem mem_of_mem_splitWhere {p : Char → Bool} {c : Char} : ∀ {cs piece : List Char},
    piece ∈ Text.splitWhere p cs → c ∈ piece → c ∈ cs := by
  intro cs
  induction cs with
  | nil =>
    intro piece hpiece hc
    obtain rfl := List.mem_singleton.mp hpiece
    cases hc
  | cons d cs ih =>
    intro piece hpiece hc
    rw [Text.splitWhere] at hpiece
    split at hpiece
    · rcases List.mem_cons.mp hpiece with rfl | hpiece
      · cases hc
      · exact List.mem_cons_of_mem _ (ih hpiece hc)
    · split at hpiece
      · rename_i first more hsplit
        rcases List.mem_cons.mp hpiece with rfl | hpiece
        · rcases List.mem_cons.mp hc with rfl | hc
          · exact List.mem_cons_self
          · exact List.mem_cons_of_mem _ (ih (by simp [hsplit]) hc)
        · exact List.mem_cons_of_mem _ (ih (by simp [hsplit, hpiece]) hc)
      · obtain rfl := List.mem_singleton.mp hpiece
        obtain rfl := List.mem_singleton.mp hc
        exact List.mem_cons_self

theorem lowerFrom_of_unchanged : ∀ (cs before : List Char),
    (∀ c ∈ cs, c.toNat ≠ 0x3A3 ∧ Text.lowerChar c = [c]) → Text.lowerFrom before cs = cs := by
  intro cs
  induction cs with
  | nil => intro before _; rfl
  | cons c cs ih =>
    intro before h
    obtain ⟨hsigma, hlower⟩ := h c (by simp)
    rw [Text.lowerFrom, ih _ fun d hd => h d (by simp [hd])]
    simp [hsigma, hlower]

theorem lowerChars_toChars (d : Date) : Text.lowerChars d.toChars = d.toChars := by
  refine lowerFrom_of_unchanged _ _ fun c hc => ?_
  rcases Date.isDateChar_of_mem hc with hc | rfl | rfl
  · have hcases := isDigit_cases hc
    simp only [List.mem_cons, List.not_mem_nil, or_false] at hcases
    rcases hcases with rfl | rfl | rfl | rfl | rfl | rfl | rfl | rfl | rfl | rfl
    all_goals exact ⟨by decide, rfl⟩
  · exact ⟨by decide, rfl⟩
  · exact ⟨by decide, rfl⟩

/-- No period is read from a written date: its words would have letters. -/
theorem ofText?_date (d : Date) : ofText? d.text = none := by
  cases h : ofText? d.text with
  | none => rfl
  | some p =>
    simp only [ofText?, Date.text, String.toList_ofList, Date.trimChars_toChars,
      lowerChars_toChars] at h
    obtain ⟨w, hw, hmem⟩ := ofWords?_first h
    obtain ⟨piece, hpiece, rfl⟩ := List.mem_map.mp hmem
    have hchars : ∀ c ∈ piece, c.isDigit = true ∨ c = '+' ∨ c = '-' := fun c hc =>
      Date.isDateChar_of_mem (mem_of_mem_splitWhere (List.mem_of_mem_filter hpiece) hc)
    have hletters : firstWords.all (fun w =>
        w.toList.any fun c => !(c.isDigit || c == '+' || c == '-')) = true := by decide
    obtain ⟨c, hc, hno⟩ := List.any_eq_true.mp (List.all_eq_true.mp hletters _ hw)
    rw [String.toList_ofList] at hc
    exact absurd (hchars c hc) (by simpa [and_assoc] using hno)

end RelativePeriod

theorem DateMacro.ofChars?_date (d : Date) : DateMacro.ofChars? d.toChars = none := by
  unfold DateMacro.ofChars?
  split
  · rename_i rest heq
    rw [d.trimChars_toChars] at heq
    have hat : '@' ∈ d.toChars := by rw [heq]; exact List.mem_cons_self
    exact absurd (Date.isDateChar_of_mem hat) (by decide)
  · rfl

/-- A written date is read as that day, on whatever day it is read. -/
theorem DateExpr.ofText?_text (today d : Date) : DateExpr.ofText? today d.text = some (.day d) := by
  have htrim : Text.trimChars d.text.toList = d.toChars := by
    rw [Date.text, String.toList_ofList, d.trimChars_toChars]
  simp only [DateExpr.ofText?, htrim, DateMacro.ofChars?_date, Date.ofChars?_toChars]
  rw [← Date.text, RelativePeriod.ofText?_date]

/-! ## Macros -/

/-- A macro whose shift has no more digits than one may have. -/
def DateMacro.IsShort (m : DateMacro) : Prop := ∀ s ∈ m.shift, s.count < 10 ^ DateMacro.maxDigits

namespace DateMacro

/-- The letters of an anchor, by which it is found. -/
def anchorLetters (a : DateAnchor) : List Char := a.token.toList.tail

theorem anchor_chars (a : DateAnchor) : a.token.toList = '@' :: anchorLetters a ∧
    (∀ c ∈ anchorLetters a, c.isAlpha = true ∧ Text.isBlank c = false) ∧
    DateAnchor.ofLetters? (anchorLetters a) = some a := by
  have hletters : (anchorLetters a).all (fun c => c.isAlpha && !Text.isBlank c) = true := by
    cases a <;> decide
  refine ⟨by cases a <;> rfl, fun c hc => ?_, by cases a <;> decide⟩
  simpa using List.all_eq_true.mp hletters c hc

def signChar (forward : Bool) : Char := if forward then '+' else '-'

theorem toList_text (m : DateMacro) : m.text.toList = m.anchor.token.toList ++
    match m.shift with
    | none => []
    | some s => ' ' :: signChar s.forward :: ' ' :: digits s.count := by
  obtain ⟨anchor, shift⟩ := m
  cases shift with
  | none => simp [text]
  | some s =>
    obtain ⟨forward, count⟩ := s
    cases forward <;> simp [text, signChar, natText]

/-- A written shift is read as itself, unless it has more digits than a shift may have. -/
theorem readShift?_text (s : DateShift) :
    readShift? (' ' :: signChar s.forward :: ' ' :: digits s.count)
      = if s.count < 10 ^ maxDigits then some s else none := by
  obtain ⟨forward, count⟩ := s
  obtain ⟨c, cs, hcs, hc⟩ := digits_eq_cons count
  have hlen : (digits count).length ≤ maxDigits ↔ count < 10 ^ maxDigits :=
    length_digits_le (by decide)
  have hread := readDigits?_digits count
  have hspace : Text.isBlank ' ' = true := by decide
  have hplus : Text.isBlank '+' = false := by decide
  have hminus : Text.isBlank '-' = false := by decide
  rw [hcs] at hlen hread ⊢
  simp only [List.length_cons] at hlen
  cases forward <;>
    simp [readShift?, signChar, hspace, hplus, hminus, Text.isBlank_of_isDigit hc, hlen, hread]

theorem ofText?_anchor (anchor : DateAnchor) :
    ofText? (DateMacro.mk anchor none).text = some ⟨anchor, none⟩ := by
  obtain ⟨hanchor, hletters, hfind⟩ := anchor_chars anchor
  have htext : (DateMacro.mk anchor none).text.toList = '@' :: anchorLetters anchor := by
    rw [toList_text, List.append_nil, hanchor]
  have htrim : Text.trimChars ('@' :: anchorLetters anchor) = '@' :: anchorLetters anchor := by
    refine Text.trimChars_of_no_blank fun c hc => ?_
    rcases List.mem_cons.mp hc with rfl | hc
    · decide
    · exact (hletters c hc).2
  have hrun : (anchorLetters anchor).takeWhile Char.isAlpha = anchorLetters anchor :=
    List.takeWhile_eq_self_iff.mpr fun c hc => (hletters c hc).1
  rw [ofText?, htext, ofChars?, htrim]
  simp [hrun, hfind]

theorem ofText?_shifted (anchor : DateAnchor) (s : DateShift) :
    ofText? (DateMacro.mk anchor (some s)).text
      = if s.count < 10 ^ maxDigits then some ⟨anchor, some s⟩ else none := by
  obtain ⟨hanchor, hletters, hfind⟩ := anchor_chars anchor
  have hshift := readShift?_text s
  generalize htail : ' ' :: signChar s.forward :: ' ' :: digits s.count = tail at hshift
  have htext : (DateMacro.mk anchor (some s)).text.toList = '@' :: (anchorLetters anchor ++ tail) := by
    rw [toList_text, hanchor, ← htail]
    rfl
  have htrim : Text.trimChars ('@' :: (anchorLetters anchor ++ tail))
      = '@' :: (anchorLetters anchor ++ tail) := by
    have hat : Text.isBlank '@' = false := by decide
    obtain ⟨c, cs, hcs, _⟩ := digits_eq_cons s.count
    refine Text.trimChars_eq_self (fun d hd => by cases hd; exact hat) fun d hd => ?_
    have hsplit : '@' :: (anchorLetters anchor ++ tail)
        = ('@' :: anchorLetters anchor ++ [' ', signChar s.forward, ' ']) ++ digits s.count := by
      simp [← htail]
    rw [hsplit, List.getLast?_append_of_ne_nil _ (by simp [hcs])] at hd
    exact Text.isBlank_of_isDigit (isDigit_of_mem_digits (List.mem_of_mem_getLast? hd))
  have hrun : (anchorLetters anchor ++ tail).takeWhile Char.isAlpha = anchorLetters anchor := by
    rw [List.takeWhile_append_of_pos fun c hc => (hletters c hc).1, ← htail,
      List.takeWhile_cons_of_neg (by decide), List.append_nil]
  rw [ofText?, htext, ofChars?, htrim]
  subst htail
  simp only [hrun, hfind, List.drop_left, hshift]
  split <;> rfl

/-- A written macro is read as itself. -/
theorem ofText?_text {m : DateMacro} (h : m.IsShort) : ofText? m.text = some m := by
  obtain ⟨anchor, shift⟩ := m
  cases shift with
  | none => exact ofText?_anchor anchor
  | some s => rw [ofText?_shifted, if_pos (h s rfl)]

theorem ofText?_long {m : DateMacro} (h : ¬m.IsShort) : ofText? m.text = none := by
  obtain ⟨anchor, shift⟩ := m
  cases shift with
  | none => exact absurd (fun _ hs => nomatch hs) h
  | some s =>
    rw [ofText?_shifted, if_neg]
    intro hs
    refine h fun s' hs' => ?_
    cases hs'
    exact hs

theorem readShift?_short {cs : List Char} {s : DateShift} (h : readShift? cs = some s) :
    s.count < 10 ^ maxDigits := by
  unfold readShift? at h
  split at h
  · split at h
    · simp only [] at h
      split at h
      · rename_i hlen
        obtain ⟨n, hn, rfl⟩ := Option.map_eq_some_iff.mp h
        exact readDigits?_lt hn hlen
      · cases h
    · cases h
  · cases h

theorem ofChars?_short {cs : List Char} {m : DateMacro} (h : ofChars? cs = some m) : m.IsShort := by
  unfold ofChars? at h
  split at h
  · simp only [] at h
    split at h
    · cases h
    · split at h
      · cases h
        exact nofun
      · obtain ⟨s, hs, rfl⟩ := Option.map_eq_some_iff.mp h
        intro s' hs'
        cases hs'
        exact readShift?_short hs
  · cases h

end DateMacro

/-! ## Macros of periods -/

namespace RelativePeriod

/-- How far the macro of a period is moved back. -/
def offset : RelativePeriod → Nat
  | .yesterday | .lastYear => 1
  | .lastDays n | .lastMonths n => n
  | .lastWeeks n => 7 * n
  | .today | .startOfWeek | .startOfMonth | .startOfYear | .startOfQuarter | .lastQuarter => 0

/-- A period whose macro has no more digits than one may have. -/
def IsShort (p : RelativePeriod) : Prop := p.offset < 10 ^ DateMacro.maxDigits

theorem resolve_short {p : RelativePeriod} (h : p.IsShort) {today : Date} {m : DateMacro}
    (hm : p.resolve today = .relative m) : m.IsShort := by
  intro s hs
  cases p <;> cases hm <;> cases hs <;> exact h

/-- The count of a period that has one. -/
def count? : RelativePeriod → Option Nat
  | .lastDays n | .lastWeeks n | .lastMonths n => some n
  | _ => none

/-- The count, if there is one, is between one and the largest. -/
def IsCounted (p : RelativePeriod) : Prop := ∀ n, p.count? = some n → 1 ≤ n ∧ n ≤ maxCount

theorem IsCounted.isShort {p : RelativePeriod} (h : p.IsCounted) : p.IsShort := by
  have hmax : maxCount = 3650 := rfl
  have hdigits : 10 ^ DateMacro.maxDigits = 100000 := rfl
  cases p with
  | lastDays n | lastWeeks n | lastMonths n =>
    have hcount := h n rfl
    simp only [IsShort, offset]
    omega
  | _ => simp [IsShort, offset, hdigits]

theorem counted?_isCounted {count unit : String} {p : RelativePeriod}
    (h : counted? count unit = some p) : p.IsCounted := by
  unfold counted? at h
  split at h
  · split at h
    · cases h
    · next hcount =>
      split at h <;> cases h <;>
      · rintro _ ⟨⟩
        omega
  · cases h

/-- Every period that can be named in words has a count that it may have. -/
theorem ofText?_isCounted {s : String} {p : RelativePeriod} (h : ofText? s = some p) :
    p.IsCounted := by
  simp only [ofText?] at h
  unfold ofWords? at h
  split at h
  all_goals first
    | cases h; done
    | exact counted?_isCounted h
    | (cases h; simp [IsCounted, count?, maxCount])

/-- Every period that can be named in words is short. -/
theorem ofText?_short {s : String} {p : RelativePeriod} (h : ofText? s = some p) : p.IsShort :=
  (ofText?_isCounted h).isShort

end RelativePeriod

theorem DateExpr.ofText?_short {today : Date} {s : String} {m : DateMacro}
    (h : DateExpr.ofText? today s = some (.relative m)) : m.IsShort := by
  simp only [DateExpr.ofText?] at h
  split at h
  · rename_i p hp
    exact RelativePeriod.resolve_short (RelativePeriod.ofText?_short hp) (Option.some.inj h)
  · split at h
    · rename_i m' hm
      cases h
      exact DateMacro.ofChars?_short hm
    · split at h
      · cases h
      · split at h
        · cases h
        · obtain ⟨d, _, heq⟩ := Option.map_eq_some_iff.mp h
          cases heq

end WorkQuery
