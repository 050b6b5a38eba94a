import WorkQuery.Text.Blank
import WorkQuery.Text.Caseless
import Mathlib.Data.List.DropRight

/-!
# WorkQuery.Proofs.Text

Digits; trimming, and trimming of texts that differ in case only; joined texts.
-/

namespace WorkQuery

theorem isDigit_cases {c : Char} (h : c.isDigit = true) :
    c ∈ ['0', '1', '2', '3', '4', '5', '6', '7', '8', '9'] := by
  have hn := Char.isDigit_iff_toNat.mp h
  have h0 : '0'.toNat = 48 := rfl
  have h9 : '9'.toNat = 57 := rfl
  rw [h0, h9] at hn
  have hc : c = Char.ofNat c.toNat := (Char.ofNat_toNat c).symm
  generalize c.toNat = n at hc hn
  have hn : n = 48 ∨ n = 49 ∨ n = 50 ∨ n = 51 ∨ n = 52 ∨ n = 53 ∨ n = 54 ∨ n = 55 ∨ n = 56 ∨ n = 57 := by
    omega
  subst hc
  rcases hn with rfl | rfl | rfl | rfl | rfl | rfl | rfl | rfl | rfl | rfl <;> decide

namespace Text

theorem mem_trimChars {c : Char} {cs : List Char} (h : c ∈ trimChars cs) : c ∈ cs := by
  unfold trimChars trimWhere dropEndWhile at h
  rw [List.mem_reverse] at h
  have hmid := List.mem_reverse.mp ((List.dropWhile_sublist _).subset h)
  exact (List.dropWhile_sublist _).subset hmid

theorem trimChars_block (cs : List Char) : trimChars cs <:+: cs :=
  (List.rdropWhile_prefix _ _).isInfix.trans (List.dropWhile_suffix _).isInfix

theorem dropEndWhile_split (p : Char → Bool) (cs : List Char) :
    ∃ after, cs = dropEndWhile p cs ++ after ∧ after.all p = true := by
  refine ⟨cs.rtakeWhile p, List.rdropWhile_append_rtakeWhile.symm, ?_⟩
  rw [List.all_eq_true]
  exact fun c hc => List.mem_rtakeWhile_imp hc

/-- Around what is left of a trimmed text there were blanks only. -/
theorem trimChars_split (cs : List Char) : ∃ before after, cs = before ++ trimChars cs ++ after ∧
    before.all isBlank = true ∧ after.all isBlank = true := by
  obtain ⟨after, hend, hafter⟩ := dropEndWhile_split isBlank (cs.dropWhile isBlank)
  refine ⟨cs.takeWhile isBlank, after, ?_, List.all_takeWhile, hafter⟩
  rw [List.append_assoc, trimChars, trimWhere, ← hend, List.takeWhile_append_dropWhile]

/-- Blanks before a text that begins with none. -/
theorem dropWhile_isBlank_append {gap rest : List Char} (hgap : gap.all isBlank = true)
    (hrest : ∀ c ∈ rest.head?, isBlank c = false) : (gap ++ rest).dropWhile isBlank = rest := by
  rw [List.dropWhile_append_of_pos (List.all_eq_true.mp hgap)]
  cases rest with
  | nil => rfl
  | cons c rest => rw [List.dropWhile_cons_of_neg (by simp [hrest c rfl])]

/-- Of printable ASCII characters only the space is blank. -/
theorem isBlank_of_range {c : Char} (hlow : 33 ≤ c.toNat) (hhigh : c.toNat ≤ 126) :
    isBlank c = false := by
  unfold isBlank
  simp only [Bool.or_eq_false_iff, Bool.and_eq_false_iff, decide_eq_false_iff_not, beq_eq_false_iff_ne]
  omega

theorem isBlank_of_isDigit {c : Char} (h : c.isDigit = true) : isBlank c = false := by
  have hn := Char.isDigit_iff_toNat.mp h
  have h0 : '0'.toNat = 48 := rfl
  have h9 : '9'.toNat = 57 := rfl
  exact isBlank_of_range (by omega) (by omega)

theorem isAlpha_iff {c : Char} : c.isAlpha = true ↔
    (65 ≤ c.toNat ∧ c.toNat ≤ 90) ∨ (97 ≤ c.toNat ∧ c.toNat ≤ 122) := by
  show (decide (65 ≤ c.val ∧ c.val ≤ 90) || decide (97 ≤ c.val) && decide (c.val ≤ 122)) = true ↔ _
  simp only [Bool.or_eq_true, Bool.and_eq_true, decide_eq_true_eq, UInt32.le_iff_toNat_le]
  exact Iff.rfl

theorem isBlank_of_isAlpha {c : Char} (h : c.isAlpha = true) : isBlank c = false := by
  rw [isAlpha_iff] at h
  exact isBlank_of_range (by omega) (by omega)

/-- A character is its own small letter, or one of A to Z. -/
theorem toLower_cases (c : Char) :
    c.toLower = c ∨ (65 ≤ c.toNat ∧ c.toNat ≤ 90 ∧ c.toLower.toNat = c.toNat + 32) := by
  by_cases h : c.val ≥ 'A'.val ∧ c.val ≤ 'Z'.val
  · have hlow : 65 ≤ c.toNat := UInt32.le_iff_toNat_le.mp h.1
    have hhigh : c.toNat ≤ 90 := UInt32.le_iff_toNat_le.mp h.2
    refine .inr ⟨hlow, hhigh, ?_⟩
    unfold Char.toLower
    rw [dif_pos h]
    show (c.val + ('a'.val - 'A'.val)).toNat = c.val.toNat + 32
    have hval : c.val.toNat ≤ 90 := hhigh
    have hshift : ('a'.val - 'A'.val).toNat = 32 := rfl
    rw [UInt32.toNat_add, hshift]
    omega
  · refine .inl ?_
    unfold Char.toLower
    rw [dif_neg h]

theorem isAlpha_toLower (c : Char) : c.toLower.isAlpha = c.isAlpha := by
  rcases toLower_cases c with h | ⟨hlow, hhigh, hlower⟩
  · rw [h]
  · rw [isAlpha_iff.mpr (.inl ⟨hlow, hhigh⟩), isAlpha_iff]
    omega

/-- A character that is no letter has no other small letter. -/
theorem toLower_of_not_letter {c : Char} (h : c.isAlpha = false) : c.toLower = c := by
  refine (toLower_cases c).resolve_right fun ⟨hlow, hhigh, _⟩ => ?_
  rw [isAlpha_iff.mpr (.inl ⟨hlow, hhigh⟩)] at h
  cases h

theorem isBlank_toLower (c : Char) : isBlank c.toLower = isBlank c := by
  rcases toLower_cases c with h | ⟨hlow, hhigh, hlower⟩
  · rw [h]
  · rw [isBlank_of_range (by omega) (by omega), isBlank_of_range (by omega) (by omega)]

theorem trimChars_toLower (cs : List Char) :
    trimChars (cs.map Char.toLower) = (trimChars cs).map Char.toLower := by
  have hblank : isBlank ∘ Char.toLower = isBlank := funext isBlank_toLower
  simp only [trimChars, trimWhere, dropEndWhile, List.dropWhile_map, hblank, ← List.map_reverse]

theorem sameIgnoringCase_trim {a b : String} (h : sameIgnoringCase a b = true) :
    sameIgnoringCase (trim a) (trim b) = true := by
  simp only [sameIgnoringCase, trim, String.toList_ofList, beq_iff_eq, ← trimChars_toLower] at h ⊢
  rw [h]

theorem trimChars_eq_nil_iff {cs : List Char} : trimChars cs = [] ↔ cs.all isBlank = true := by
  have hdrop : ∀ ds : List Char, ds.dropWhile isBlank = [] ↔ ds.all isBlank = true := by
    intro ds
    rw [List.dropWhile_eq_nil_iff, List.all_eq_true]
  rw [trimChars, trimWhere, dropEndWhile, List.reverse_eq_nil_iff, hdrop, List.all_reverse]
  constructor
  · intro h
    rw [← List.takeWhile_append_dropWhile (p := isBlank) (l := cs), List.all_append, h]
    simp
  · intro h
    rw [(hdrop cs).mpr h]
    rfl

theorem trim_ne_nil {s : String} (h : isBlankText s = false) : (trim s).toList ≠ [] := by
  rw [trim, String.toList_ofList, ne_eq, trimChars_eq_nil_iff]
  simpa [isBlankText] using h

/-- A text without blanks at its ends is trimmed. -/
theorem trimChars_eq_self {cs : List Char} (hfirst : ∀ c ∈ cs.head?, isBlank c = false)
    (hlast : ∀ c ∈ cs.getLast?, isBlank c = false) : trimChars cs = cs := by
  have hkeeps : ∀ ds : List Char, (∀ c ∈ ds.head?, isBlank c = false) → ds.dropWhile isBlank = ds :=
    fun ds h => @dropWhile_isBlank_append [] ds rfl h
  rw [trimChars, trimWhere, dropEndWhile, hkeeps cs hfirst, hkeeps _ (by rwa [List.head?_reverse]),
    List.reverse_reverse]

theorem trimChars_of_no_blank {cs : List Char} (h : ∀ c ∈ cs, isBlank c = false) :
    trimChars cs = cs :=
  trimChars_eq_self (fun c hc => h c (List.mem_of_mem_head? hc))
    fun c hc => h c (List.mem_of_mem_getLast? hc)

theorem trimChars_trimChars (cs : List Char) : trimChars (trimChars cs) = trimChars cs := by
  apply trimChars_eq_self
  · intro c hc
    -- what is trimmed at the end begins as what it was trimmed from
    obtain ⟨tail, htail⟩ : trimChars cs <+: cs.dropWhile isBlank := List.rdropWhile_prefix _ _
    have hhead := List.head?_dropWhile_not isBlank cs
    rw [← htail, List.head?_append, Option.mem_def.mp hc] at hhead
    simpa using hhead
  · intro c hc
    have hlast := List.head?_dropWhile_not isBlank (cs.dropWhile isBlank).reverse
    have hhead : ((cs.dropWhile isBlank).reverse.dropWhile isBlank).head? = some c := by
      rw [← List.getLast?_reverse]
      exact hc
    rw [hhead] at hlast
    simpa using hlast

theorem dropEndWhile_append_of_all {p : Char → Bool} {cs after : List Char}
    (h : ∀ c ∈ after, p c = true) : dropEndWhile p (cs ++ after) = dropEndWhile p cs := by
  rw [dropEndWhile, List.reverse_append, List.dropWhile_append_of_pos, ← dropEndWhile]
  exact fun c hc => h c (List.mem_reverse.mp hc)

/-- What is dropped at the end of a text is dropped from its last part, unless that is all of it. -/
theorem dropEndWhile_append {p : Char → Bool} {before cs : List Char} (h : dropEndWhile p cs ≠ []) :
    dropEndWhile p (before ++ cs) = before ++ dropEndWhile p cs := by
  have hkept : (cs.reverse.dropWhile p).isEmpty = false := by simpa [dropEndWhile] using h
  rw [dropEndWhile, List.reverse_append, List.dropWhile_append, hkept, dropEndWhile]
  simp

/-- Blanks around a text are trimmed with its own. -/
theorem trimChars_surrounded {before cs after : List Char} (hbefore : before.all isBlank = true)
    (hafter : after.all isBlank = true) : trimChars (before ++ cs ++ after) = trimChars cs := by
  rw [List.all_eq_true] at hbefore hafter
  have hstart : (before ++ (cs ++ after)).dropWhile isBlank = (cs ++ after).dropWhile isBlank :=
    List.dropWhile_append_of_pos hbefore
  rw [trimChars, trimChars, trimWhere, trimWhere, List.append_assoc, hstart, List.dropWhile_append]
  split
  · next hblank =>
    have hcs : cs.dropWhile isBlank = [] := List.isEmpty_iff.mp hblank
    have hdrop : after.dropWhile isBlank = [] := List.dropWhile_eq_nil_iff.mpr hafter
    rw [hcs, hdrop]
  · exact dropEndWhile_append_of_all hafter

theorem trimChars_append {cs after : List Char} (h : after.all isBlank = true) :
    trimChars (cs ++ after) = trimChars cs :=
  @trimChars_surrounded [] cs after rfl h

/-- Trimming at the end is the first half of trimming. -/
theorem trimChars_dropEndWhile (cs : List Char) : trimChars (dropEndWhile isBlank cs) = trimChars cs := by
  obtain ⟨after, hcs, hafter⟩ := dropEndWhile_split isBlank cs
  conv_rhs => rw [hcs]
  exact (trimChars_append hafter).symm

theorem isBlankText_iff {s : String} : isBlankText s = true ↔ trimChars s.toList = [] :=
  trimChars_eq_nil_iff.symm

theorem isBlankText_trim_eq (s : String) : isBlankText (trim s) = isBlankText s := by
  rw [Bool.eq_iff_iff, isBlankText_iff, isBlankText_iff, trim, String.toList_ofList,
    trimChars_trimChars]

/-- What has been trimmed to something is not blank. -/
theorem isBlankText_trim {s : String} (h : (trim s).toList ≠ []) : isBlankText (trim s) = false := by
  rw [trim, String.toList_ofList] at h
  rwa [isBlankText_trim_eq, Bool.eq_false_iff, ne_eq, isBlankText_iff]

theorem join_singleton (sep a : String) : join sep [a] = a := by
  simp [join, joinChars]

theorem join_cons_cons (sep a b : String) (more : List String) :
    join sep (a :: b :: more) = a ++ sep ++ join sep (b :: more) := by
  apply String.toList_injective
  simp [join, joinChars]

/-- The first two pieces joined beforehand. -/
theorem join_merge (sep a b : String) (more : List String) :
    join sep ((a ++ sep ++ b) :: more) = join sep (a :: b :: more) := by
  cases more with
  | nil => rw [join_cons_cons, join_singleton, join_singleton]
  | cons c more => simp only [join_cons_cons, String.append_assoc]

end Text
end WorkQuery
