import WorkQuery.Proofs.Text.Runs
import WorkQuery.Text.Lowercase
import Mathlib.Data.List.Infix

/-!
# WorkQuery.Proofs.Text.Blocks

Blocks of a text and blocks of its words.

* `containsBlock_iff`: what the search for a block finds.
* `padded_block_iff`: between separators, words stand in a row of words just if the text of the ones
  stands in the text of the others. No word may be empty or hold a separator.
* `afterLast?_append`: what follows the last place of a block, after any text.
* `LinesBegin`: what the lines of a text begin with; `LinesBegin.no_block` finds no block that begins
  another line.
* `isBlank_of_mem_lowerChars`: a text without blanks has none in lowercase.
-/

namespace WorkQuery
namespace Text

theorem dropPrefix?_eq_some_iff {part text rest : List Char} :
    dropPrefix? part text = some rest ↔ text = part ++ rest := by
  induction part generalizing text with
  | nil => simp [dropPrefix?]
  | cons p part ih =>
    cases text with
    | nil => simp [dropPrefix?]
    | cons c text =>
      by_cases h : p = c
      · simp [dropPrefix?, h, ih]
      · simp [dropPrefix?, h, Ne.symm h]

theorem dropPrefix?_isSome_iff {part text : List Char} :
    (dropPrefix? part text).isSome = true ↔ part <+: text := by
  rw [Option.isSome_iff_exists]
  constructor
  · rintro ⟨rest, h⟩
    exact ⟨rest, (dropPrefix?_eq_some_iff.mp h).symm⟩
  · rintro ⟨rest, h⟩
    exact ⟨rest, dropPrefix?_eq_some_iff.mpr h.symm⟩

theorem containsBlock_iff {part text : List Char} :
    containsBlock part text = true ↔ part <:+: text := by
  induction text with
  | nil => simp [containsBlock]
  | cons c text ih =>
    rw [containsBlock, Bool.or_eq_true, dropPrefix?_isSome_iff, ih, List.infix_cons_iff]

/-- What follows the last place of the block in the text, if it stands there. -/
def afterLast? (part : List Char) : List Char → Option (List Char)
  | [] => dropPrefix? part []
  | c :: cs => (afterLast? part cs).or (dropPrefix? part (c :: cs))

theorem afterLast?_eq_none {part text : List Char} (h : ¬ part <:+: text) :
    afterLast? part text = none := by
  induction text with
  | nil =>
    rw [afterLast?, ← Option.not_isSome_iff_eq_none, dropPrefix?_isSome_iff]
    exact fun hprefix => h hprefix.isInfix
  | cons c text ih =>
    rw [List.infix_cons_iff, not_or] at h
    rw [afterLast?, ih h.2, Option.none_or, ← Option.not_isSome_iff_eq_none, dropPrefix?_isSome_iff]
    exact h.1

/-- A block that does not begin once more within itself or later is at its last place. -/
theorem afterLast?_append {c : Char} {part after : List Char} (before : List Char)
    (h : ¬ c :: part <:+: part ++ after) :
    afterLast? (c :: part) (before ++ c :: part ++ after) = some after := by
  induction before with
  | nil =>
    rw [List.nil_append, List.cons_append, afterLast?, afterLast?_eq_none h, Option.none_or]
    exact dropPrefix?_eq_some_iff.mpr rfl
  | cons d before ih => rw [List.cons_append, List.cons_append, afterLast?, ih, Option.some_or]

/-! ## Lines -/

/-- Every line but the first begins with a character of this kind. -/
def LinesBegin (p : Char → Bool) (cs : List Char) : Prop :=
  ∀ before after, cs = before ++ '\n' :: after → ∃ c ∈ after.head?, p c = true

theorem LinesBegin.mono {p q : Char → Bool} {cs : List Char} (h : LinesBegin p cs)
    (hpq : ∀ c, p c = true → q c = true) : LinesBegin q cs := by
  intro before after heq
  obtain ⟨c, hc, hp⟩ := h before after heq
  exact ⟨c, hc, hpq c hp⟩

theorem linesBegin_of_not_mem {p : Char → Bool} {cs : List Char} (h : '\n' ∉ cs) :
    LinesBegin p cs := by
  rintro before after rfl
  exact absurd (List.mem_append_right _ List.mem_cons_self) h

theorem LinesBegin.append {p : Char → Bool} {cs ds : List Char} (hcs : LinesBegin p cs)
    (hds : LinesBegin p ds) : LinesBegin p (cs ++ ds) := by
  intro before after heq
  rcases List.append_eq_append_iff.mp heq with ⟨middle, -, hmiddle⟩ | ⟨middle, hbefore, hmiddle⟩
  · exact hds middle after hmiddle
  · cases middle with
    | nil => exact hds [] after hmiddle.symm
    | cons c middle =>
      -- the line break is in the first text, and so is the character after it
      cases hmiddle
      obtain ⟨c, hc, hbegins⟩ := hcs before middle hbefore
      exact ⟨c, List.mem_head?_append_of_mem_head? hc, hbegins⟩

theorem LinesBegin.cons {p : Char → Bool} {c : Char} {cs : List Char} (hc : c ≠ '\n')
    (hcs : LinesBegin p cs) : LinesBegin p (c :: cs) :=
  (linesBegin_of_not_mem (by simpa using hc.symm) : LinesBegin p [c]).append hcs

/-- One more line. -/
theorem LinesBegin.line {p : Char → Bool} {c : Char} {cs : List Char} (hc : p c = true)
    (hcs : LinesBegin p (c :: cs)) : LinesBegin p ('\n' :: c :: cs) := by
  intro before after heq
  cases before with
  | nil =>
    cases heq
    exact ⟨c, rfl, hc⟩
  | cons d before => exact hcs before after (List.cons.inj heq).2

theorem LinesBegin.no_block {p : Char → Bool} {c : Char} {part cs : List Char}
    (h : LinesBegin p cs) (hc : p c = false) : ¬ '\n' :: c :: part <:+: cs := by
  rintro ⟨before, after, rfl⟩
  obtain ⟨d, hd, hp⟩ := h before (c :: part ++ after) (by simp)
  cases hd
  rw [hc] at hp
  cases hp

/-! ## Words between separators -/

section Separated

variable {p : Char → Bool} {c : Char} {ws vs : List (List Char)}

/-- The words with a separator after each of them. -/
def separated (c : Char) (ws : List (List Char)) : List Char := ws.flatMap fun w => w ++ [c]

theorem separated_append (c : Char) (ws vs : List (List Char)) :
    separated c (ws ++ vs) = separated c ws ++ separated c vs := List.flatMap_append

theorem joinChars_separated (c : Char) (hne : ws ≠ []) :
    joinChars [c] ws ++ [c] = separated c ws := by
  induction ws with
  | nil => exact absurd rfl hne
  | cons w ws ih =>
    cases ws with
    | nil => simp [joinChars, separated]
    | cons next ws =>
      have hrest := ih (List.cons_ne_nil next ws)
      rw [joinChars_cons, List.append_assoc, List.cons_append, hrest]
      simp [separated]

theorem splitNonempty_joinChars (hc : p c = true)
    (h : ∀ w ∈ ws, w ≠ [] ∧ ∀ d ∈ w, p d = false) : splitNonempty p (joinChars [c] ws) = ws := by
  by_cases hne : ws = []
  · subst hne
    rfl
  · rw [splitNonempty, splitWhere_joinChars hc hne fun w hw => (h w hw).2, List.filter_eq_self]
    intro w hw
    simpa using (h w hw).1

/-- The text of words, with a separator at either end and between them. -/
def padding (c : Char) (ws : List (List Char)) : List Char := c :: joinChars [c] ws ++ [c]

theorem splitNonempty_padding (hc : p c = true)
    (h : ∀ w ∈ ws, w ≠ [] ∧ ∀ d ∈ w, p d = false) (left right : List Char) :
    splitNonempty p (left ++ padding c ws ++ right) =
      splitNonempty p left ++ ws ++ splitNonempty p right := by
  have hsplit : left ++ padding c ws ++ right = left ++ c :: (joinChars [c] ws ++ c :: right) := by
    simp [padding]
  rw [hsplit, splitNonempty_append_cons left hc, splitNonempty_append_cons _ hc,
    splitNonempty_joinChars hc h, List.append_assoc]

theorem padded_block_iff (hc : p c = true) (hws : ∀ w ∈ ws, w ≠ [] ∧ ∀ d ∈ w, p d = false)
    (hvs : ∀ w ∈ vs, w ≠ [] ∧ ∀ d ∈ w, p d = false) (hne : ws ≠ []) :
    padding c ws <:+: padding c vs ↔ ws <:+: vs := by
  constructor
  · -- the words are what is left of either text when it is cut at the separators
    rintro ⟨left, right, heq⟩
    have hwhole := splitNonempty_padding hc hvs [] []
    have hparts := splitNonempty_padding hc hws left right
    rw [heq] at hparts
    simp only [List.nil_append, List.append_nil, splitNonempty_nil] at hwhole
    exact ⟨_, _, hparts.symm.trans hwhole⟩
  · rintro ⟨front, back, rfl⟩
    have hall : front ++ ws ++ back ≠ [] := by simp [hne]
    obtain ⟨start, hstart⟩ : ∃ start, c :: separated c front = start ++ [c] := by
      rcases List.eq_nil_or_concat front with rfl | ⟨more, w, rfl⟩
      · exact ⟨[], rfl⟩
      · exact ⟨c :: separated c more ++ w, by simp [separated]⟩
    refine ⟨start, separated c back, ?_⟩
    simp only [padding, List.cons_append, joinChars_separated c hne, joinChars_separated c hall,
      separated_append]
    rw [← List.cons_append, ← List.cons_append, hstart]
    simp

end Separated

/-! ## Lowercase -/

/-- A code that no character has stands for the character zero. -/
theorem toNat_ofNat_cases (n : Nat) : (Char.ofNat n).toNat = n ∨ (Char.ofNat n).toNat = 0 := by
  by_cases hvalid : n.isValidChar
  · exact .inl (by rw [Char.ofNat, dif_pos hvalid]; rfl)
  · exact .inr (by rw [Char.ofNat, dif_neg hvalid]; rfl)

/-- No letter becomes a blank in lowercase. -/
theorem isBlank_of_mem_lowerChar {c d : Char} (hc : isBlank c = false) (hd : d ∈ lowerChar c) :
    isBlank d = false := by
  have htable : ∀ run ∈ lowercaseRuns, ∀ code ∈ blankCodes,
      (code : Int) < run.1 + run.2.2.2 ∨ run.2.1 + run.2.2.2 < (code : Int) := by decide +kernel
  unfold lowerChar at hd
  split at hd
  · rw [List.mem_singleton.mp hd, isBlank_toLower, hc]
  · split at hd
    · rcases List.mem_pair.mp hd with rfl | rfl
      · decide
      · decide
    · split at hd
      · rename_i first last step shift hfind
        have hrange := List.find?_some hfind
        simp only [Bool.and_eq_true, decide_eq_true_eq] at hrange
        rw [List.mem_singleton.mp hd, Bool.eq_false_iff]
        intro hblank
        have hcode := mem_blankCodes hblank
        rcases toNat_ofNat_cases ((c.toNat : Int) + shift).toNat with hsame | hzero
        · rw [hsame] at hcode
          have hfar := htable _ (List.mem_of_find?_eq_some hfind) _ hcode
          have hpositive : 0 < ((c.toNat : Int) + shift).toNat := by
            refine Nat.pos_of_ne_zero fun hzero => ?_
            rw [hzero] at hcode
            exact absurd hcode (by decide)
          simp only at hfar
          omega
        · rw [hzero] at hcode
          exact absurd hcode (by decide)
      · rw [List.mem_singleton.mp hd, hc]

theorem lowerChar_ne_nil (c : Char) : lowerChar c ≠ [] := by
  unfold lowerChar
  split
  · exact List.cons_ne_nil _ _
  · split
    · exact List.cons_ne_nil _ _
    · split <;> exact List.cons_ne_nil _ _

theorem isBlank_of_mem_lowerFrom {d : Char} : ∀ {text before : List Char},
    (∀ c ∈ text, isBlank c = false) → d ∈ lowerFrom before text → isBlank d = false := by
  have hfinal : isBlank (Char.ofNat 0x3C2) = false := by decide
  have hsigma : isBlank (Char.ofNat 0x3C3) = false := by decide
  intro text
  induction text with
  | nil => exact fun _ hd => absurd hd List.not_mem_nil
  | cons c text ih =>
    intro before h hd
    rw [lowerFrom, List.mem_append] at hd
    rcases hd with hd | hd
    · split at hd
      · split at hd
        · exact List.mem_singleton.mp hd ▸ hfinal
        · exact List.mem_singleton.mp hd ▸ hsigma
      · exact isBlank_of_mem_lowerChar (h c (by simp)) hd
    · exact ih (fun e he => h e (by simp [he])) hd

theorem isBlank_of_mem_lowerChars {text : List Char} {d : Char}
    (h : ∀ c ∈ text, isBlank c = false) (hd : d ∈ lowerChars text) : isBlank d = false :=
  isBlank_of_mem_lowerFrom h hd

theorem lowerChars_eq_nil_iff {text : List Char} : lowerChars text = [] ↔ text = [] := by
  cases text with
  | nil => simp [lowerChars, lowerFrom]
  | cons c text =>
    rw [lowerChars, lowerFrom, List.append_eq_nil_iff]
    constructor
    · rintro ⟨himage, -⟩
      split at himage
      · split at himage <;> cases himage
      · exact absurd himage (lowerChar_ne_nil c)
    · exact fun h => absurd h (List.cons_ne_nil _ _)

end Text
end WorkQuery
