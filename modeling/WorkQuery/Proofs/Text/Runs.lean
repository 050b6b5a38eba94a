import WorkQuery.Proofs.Text
import WorkQuery.Text.WordChar

/-!
# WorkQuery.Proofs.Text.Runs

Texts cut where characters of a class stand.

* `splitNonempty_append`: the pieces of two texts one after the other, if the cut is at the end of
  the first or at the start of the second.
* `mem_splitWhere`: what stands around a piece.
* `splitWhere_joinChars`: what has been joined is cut into what it was joined from.
* `digitRuns`: the numbers in a text, each with all of its digits (`isNumberIn_of_mem`).
-/

namespace WorkQuery
namespace Text

/-! ## Pieces -/

section Pieces

variable {p : Char → Bool}

theorem splitWhere_word {word : List Char} (h : ∀ c ∈ word, p c = false) :
    splitWhere p word = [word] := by
  induction word with
  | nil => rfl
  | cons c word ih =>
    simp [splitWhere, h c (by simp), ih fun d hd => h d (by simp [hd])]

theorem splitWhere_ne_nil (text : List Char) : splitWhere p text ≠ [] := by
  cases text with
  | nil => exact List.cons_ne_nil _ _
  | cons c rest =>
    rw [splitWhere]
    split
    · exact List.cons_ne_nil _ _
    · split <;> exact List.cons_ne_nil _ _

theorem splitWhere_eq_splitOnP (p : Char → Bool) (text : List Char) :
    splitWhere p text = text.splitOnP p := by
  induction text with
  | nil => rfl
  | cons c text ih =>
    rw [splitWhere, ih, List.splitOnP_cons_eq_if_modifyHead]
    by_cases hc : p c = true
    · rw [if_pos hc, if_pos hc]
    · rw [if_neg hc, if_neg hc]
      obtain ⟨piece, pieces, hpieces⟩ := List.exists_cons_of_ne_nil (List.splitOnP_ne_nil p text)
      rw [hpieces, List.modifyHead_cons]

theorem splitWhere_append (left : List Char) {c : Char} (hc : p c = true) (right : List Char) :
    splitWhere p (left ++ c :: right) = splitWhere p left ++ splitWhere p right := by
  induction left with
  | nil => simp [splitWhere, hc]
  | cons d left ih =>
    by_cases hd : p d = true
    · simp [splitWhere, hd, ih]
    · obtain ⟨piece, pieces, hpieces⟩ := List.exists_cons_of_ne_nil (splitWhere_ne_nil (p := p) left)
      simp [splitWhere, hd, ih, hpieces]

/-- A piece holds no character of the class, and such characters stand on both sides of it. -/
theorem mem_splitWhere {piece : List Char} : ∀ {text : List Char}, piece ∈ splitWhere p text →
    ∃ left right, text = left ++ piece ++ right ∧ (∀ c ∈ piece, p c = false) ∧
      (∀ c ∈ left.getLast?, p c = true) ∧ ∀ c ∈ right.head?, p c = true := by
  intro text
  -- the first piece, and then the pieces of what follows the character after it
  induction hn : text.length using Nat.strongRecOn generalizing text with
  | ind n ih =>
    intro hpiece
    have hword : ∀ c ∈ text.takeWhile (fun c => !p c), p c = false := fun c hc => by
      simpa using List.mem_takeWhile_imp hc
    have hcut := List.takeWhile_append_dropWhile (p := fun c => !p c) (l := text)
    have hhead := List.head?_dropWhile_not (fun c => !p c) text
    generalize text.takeWhile (fun c => !p c) = word at *
    cases hrest : text.dropWhile fun c => !p c with
    | nil =>
      rw [hrest, List.append_nil] at hcut
      subst hcut
      rw [splitWhere_word hword, List.mem_singleton] at hpiece
      subst hpiece
      exact ⟨[], [], by simp, hword, nofun, nofun⟩
    | cons c tail =>
      rw [hrest] at hcut hhead
      have hc : p c = true := by simpa using hhead
      subst hcut
      rw [splitWhere_append word hc, splitWhere_word hword, List.singleton_append] at hpiece
      rcases List.mem_cons.mp hpiece with rfl | hpiece
      · exact ⟨[], c :: tail, by simp, hword, nofun, by simpa using hc⟩
      · have hshorter : tail.length < n := by
          rw [← hn, List.length_append, List.length_cons]
          omega
        obtain ⟨left, right, rfl, hall, hleft, hright⟩ := ih _ hshorter rfl hpiece
        refine ⟨word ++ c :: left, right, by simp, hall, ?_, hright⟩
        intro d hd
        rw [List.getLast?_append, List.getLast?_cons] at hd
        cases hlast : left.getLast? with
        | none =>
          rw [hlast] at hd
          cases hd
          exact hc
        | some e =>
          rw [hlast] at hd
          cases hd
          exact hleft _ hlast

@[simp] theorem splitNonempty_nil : splitNonempty p [] = [] := rfl

theorem splitNonempty_cons {c : Char} (hc : p c = true) (right : List Char) :
    splitNonempty p (c :: right) = splitNonempty p right := by
  simp [splitNonempty, splitWhere, hc]

/-- The only piece of a text that is not cut. -/
theorem splitNonempty_word {word : List Char} (hne : word ≠ []) (h : ∀ c ∈ word, p c = false) :
    splitNonempty p word = [word] := by
  simp [splitNonempty, splitWhere_word h, hne]

theorem splitNonempty_eq_nil {text : List Char} (h : ∀ c ∈ text, p c = true) :
    splitNonempty p text = [] := by
  induction text with
  | nil => rfl
  | cons c text ih =>
    rw [splitNonempty_cons (h c (by simp)), ih fun d hd => h d (by simp [hd])]

theorem splitNonempty_append_cons (left : List Char) {c : Char} (hc : p c = true)
    (right : List Char) :
    splitNonempty p (left ++ c :: right) = splitNonempty p left ++ splitNonempty p right := by
  rw [splitNonempty, splitWhere_append left hc, List.filter_append]
  rfl

/-- Two texts one after the other, with a cut between them. -/
theorem splitNonempty_append {left right : List Char}
    (h : (∀ c ∈ left.getLast?, p c = true) ∨ ∀ c ∈ right.head?, p c = true) :
    splitNonempty p (left ++ right) = splitNonempty p left ++ splitNonempty p right := by
  rcases h with h | h
  · rcases List.eq_nil_or_concat left with rfl | ⟨front, c, rfl⟩
    · rfl
    · have hc : p c = true := h c (by simp)
      rw [List.concat_eq_append, List.append_assoc, List.singleton_append,
        splitNonempty_append_cons front hc, splitNonempty_append_cons front hc, splitNonempty_nil,
        List.append_nil]
  · cases right with
    | nil => simp
    | cons c right =>
      have hc : p c = true := h c rfl
      rw [splitNonempty_append_cons left hc, splitNonempty_cons hc]

/-! ### Pieces joined again -/

theorem joinChars_cons (c : Char) (w next : List Char) (ws : List (List Char)) :
    joinChars [c] (w :: next :: ws) = w ++ c :: joinChars [c] (next :: ws) := by
  simp [joinChars]

theorem splitWhere_joinChars {c : Char} (hc : p c = true) : ∀ {ws : List (List Char)}, ws ≠ [] →
    (∀ w ∈ ws, ∀ d ∈ w, p d = false) → splitWhere p (joinChars [c] ws) = ws
  | [], hne, _ => absurd rfl hne
  | [w], _, h => splitWhere_word (h w (by simp))
  | w :: next :: ws, _, h => by
    rw [joinChars_cons, splitWhere_append w hc, splitWhere_word (h w (by simp)),
      splitWhere_joinChars hc (List.cons_ne_nil _ _) fun v hv => h v (by simp [hv]),
      List.singleton_append]

theorem mem_joinChars {c : Char} : ∀ {ws : List (List Char)} {d : Char}, d ∈ joinChars [c] ws →
    d = c ∨ ∃ w ∈ ws, d ∈ w
  | [], _, hd => nomatch hd
  | [w], d, hd => .inr ⟨w, by simp, hd⟩
  | w :: next :: ws, d, hd => by
    rw [joinChars_cons, List.mem_append, List.mem_cons] at hd
    rcases hd with hd | hd | hd
    · exact .inr ⟨w, by simp, hd⟩
    · exact .inl hd
    · rcases mem_joinChars hd with hd | ⟨v, hv, hd⟩
      · exact .inl hd
      · exact .inr ⟨v, by simp [hv], hd⟩

end Pieces

/-! ## Digits -/

/-- Any character but a decimal digit. -/
def isNoDigit (c : Char) : Bool := !isDecimalDigit c

theorem isNoDigit_iff {c : Char} : isNoDigit c = true ↔ isDecimalDigit c = false := by
  rw [isNoDigit, Bool.not_eq_true']

theorem isNoDigit_eq_false {c : Char} : isNoDigit c = false ↔ isDecimalDigit c = true := by
  rw [isNoDigit, Bool.not_eq_false']

/-- The numbers in a text: its longest blocks of decimal digits. -/
def digitRuns (text : List Char) : List (List Char) := splitNonempty isNoDigit text

/-- A block of digits with no further digit before or after it. -/
def IsNumberIn (text run : List Char) : Prop :=
  ∃ left right, text = left ++ run ++ right ∧ run ≠ [] ∧ (∀ c ∈ run, isDecimalDigit c = true) ∧
    (∀ c ∈ left.getLast?, isDecimalDigit c = false) ∧ ∀ c ∈ right.head?, isDecimalDigit c = false

theorem isNumberIn_of_mem {text run : List Char} (h : run ∈ digitRuns text) :
    IsNumberIn text run := by
  obtain ⟨hmem, hne⟩ := List.mem_filter.mp h
  obtain ⟨left, right, htext, hall, hleft, hright⟩ := mem_splitWhere hmem
  exact ⟨left, right, htext, by simpa using hne, fun c hc => isNoDigit_eq_false.mp (hall c hc),
    fun c hc => isNoDigit_iff.mp (hleft c hc), fun c hc => isNoDigit_iff.mp (hright c hc)⟩

/-- The only number of a text of digits. -/
theorem digitRuns_digits {run : List Char} (hne : run ≠ [])
    (h : ∀ c ∈ run, isDecimalDigit c = true) : digitRuns run = [run] :=
  splitNonempty_word hne fun c hc => isNoDigit_eq_false.mpr (h c hc)

/-- The first number, if the text begins with a digit. -/
theorem digitRuns_cons {c : Char} (hc : isDecimalDigit c = true) (tail : List Char) :
    digitRuns (c :: tail) = (c :: tail).takeWhile isDecimalDigit ::
      digitRuns ((c :: tail).dropWhile isDecimalDigit) := by
  have hne : (c :: tail).takeWhile isDecimalDigit ≠ [] := by
    rw [List.takeWhile_cons_of_pos hc]
    exact List.cons_ne_nil _ _
  have hafter : ∀ d ∈ ((c :: tail).dropWhile isDecimalDigit).head?, isNoDigit d = true := by
    intro d hd
    have hhead := List.head?_dropWhile_not isDecimalDigit (c :: tail)
    rw [Option.mem_def.mp hd] at hhead
    exact isNoDigit_iff.mpr (by simpa using hhead)
  calc digitRuns (c :: tail)
    _ = digitRuns ((c :: tail).takeWhile isDecimalDigit ++ (c :: tail).dropWhile isDecimalDigit) := by
      rw [List.takeWhile_append_dropWhile]
    _ = digitRuns ((c :: tail).takeWhile isDecimalDigit) ++
        digitRuns ((c :: tail).dropWhile isDecimalDigit) := splitNonempty_append (.inr hafter)
    _ = _ := by
      rw [digitRuns_digits hne fun d hd => List.mem_takeWhile_imp hd]
      rfl

theorem isAlphanumeric_of_isDecimalDigit {c : Char} (h : isDecimalDigit c = true) :
    isAlphanumeric c = true := by
  by_cases hascii : isAscii c = true
  · rw [isDecimalDigit, if_pos hascii] at h
    rw [isAlphanumeric, if_pos hascii, Char.isAlphanum, h, Bool.or_true]
  · rw [isDecimalDigit, if_neg hascii] at h
    rw [isAlphanumeric, if_neg hascii, h, Bool.or_true, Bool.true_or]

theorem isWordChar_of_isDecimalDigit {c : Char} (h : isDecimalDigit c = true) :
    isWordChar c = true := by
  by_cases hascii : isAscii c = true
  · rw [isDecimalDigit, if_pos hascii] at h
    rw [isWordChar, if_pos hascii, Char.isAlphanum, h, Bool.or_true, Bool.true_or]
  · rw [isDecimalDigit, if_neg hascii] at h
    rw [isWordChar, if_neg hascii, h]
    simp

/-- The codes of the blanks. -/
def blankCodes : List Nat := [0x9, 0xA, 0xB, 0xC, 0xD, 0x20, 0x85, 0xA0, 0x1680, 0x2000, 0x2001,
  0x2002, 0x2003, 0x2004, 0x2005, 0x2006, 0x2007, 0x2008, 0x2009, 0x200A, 0x2028, 0x2029, 0x202F,
  0x205F, 0x3000]

theorem mem_blankCodes {c : Char} (h : isBlank c = true) : c.toNat ∈ blankCodes := by
  simp only [isBlank, Bool.or_eq_true, Bool.and_eq_true, decide_eq_true_eq, beq_iff_eq] at h
  simp only [blankCodes, List.mem_cons, List.not_mem_nil, or_false]
  omega

theorem isAlphanumeric_of_isBlank {c : Char} (h : isBlank c = true) : isAlphanumeric c = false := by
  have hnone : ∀ n ∈ blankCodes, isAlphanumeric (Char.ofNat n) = false := by
    decide +kernel
  rw [← Char.ofNat_toNat c]
  exact hnone _ (mem_blankCodes h)

theorem isDecimalDigit_of_isBlank {c : Char} (h : isBlank c = true) : isDecimalDigit c = false := by
  rw [Bool.eq_false_iff]
  intro hdigit
  have hnone := isAlphanumeric_of_isBlank h
  rw [isAlphanumeric_of_isDecimalDigit hdigit] at hnone
  cases hnone

end Text
end WorkQuery
