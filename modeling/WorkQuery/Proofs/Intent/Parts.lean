import WorkQuery.Proofs.Intent.Recognition
import Mathlib.Data.List.Destutter

/-!
# WorkQuery.Proofs.Intent.Parts

What the filter of an utterance holds besides conditions on fields.

* `Criteria.ofUtterance_parts`: the item numbers, the date window and the search terms, each as the
  utterance gives it.
* `Criteria.ofUtterance_ids`: the numbers are those named, without neighbours that are equal. A
  number stands there twice just if it is named again after another one.
-/

namespace WorkQuery

namespace ItemFilter

/-- The filter without its conditions on fields, and without the extras. -/
def bare (f : ItemFilter) : ItemFilter := { f with predicates := [], extras := {} }

variable (f : ItemFilter)

theorem bare_withSingle (field : String) (op : Operator) (value : Literal) :
    (f.withSingle field op value).bare = f.bare := rfl

theorem bare_withAny (field : String) (one many : Operator) (values : List String) :
    (f.withAny field one many values).bare = f.bare := by
  unfold withAny
  split <;> rfl

theorem bare_withPriorityRange (low high : Int) :
    (f.withPriorityRange low high).bare = f.bare := by
  unfold withPriorityRange
  split <;> rfl

end ItemFilter

namespace Criteria

/-! ## Steps -/

/-- So far the criteria hold this besides conditions on fields. -/
def Holds (c : Criteria) (f : ItemFilter) : Prop := c.filter.bare = f

namespace Holds

variable {c : Criteria} {f : ItemFilter} {kind : Criterion} {α : Type}
  {change : ItemFilter → α → ItemFilter}

theorem start : Holds ⟨{}, []⟩ {} := rfl

/-- A criterion on a field leaves the rest as it is. -/
theorem addMaybe (h : c.Holds f) (hchange : ∀ g a, (change g a).bare = g.bare)
    (value : Option α) : (c.addMaybe kind value change).Holds f := by
  cases value with
  | none => exact h
  | some a => exact (hchange c.filter a).trans h

theorem addAll (h : c.Holds f) (hchange : ∀ g a, (change g a).bare = g.bare)
    (values : List α) : (c.addAll kind values change).Holds f := by
  unfold Criteria.addAll
  induction values generalizing c with
  | nil => exact h
  | cons a values ih => exact ih ((hchange c.filter a).trans h)

theorem addIds (h : c.Holds f) (numbers : List Nat) :
    (c.addMaybe kind (if numbers.isEmpty then none else some numbers) ItemFilter.withIds).Holds
      { f with ids := f.ids ++ numbers } := by
  subst h
  cases numbers with
  | nil => simp [Criteria.addMaybe, Holds, ItemFilter.bare]
  | cons number numbers => rfl

theorem addWindow (h : c.Holds f) (w : Option DateWindow) :
    (c.addMaybe kind w ItemFilter.withDateWindow).Holds
      { f with dateWindow := w.or f.dateWindow } := by
  subst h
  cases w <;> rfl

theorem addTerms (h : c.Holds f) (terms : List String) :
    (c.addAll kind terms ItemFilter.withFreeText).Holds
      { f with freeTextTerms := f.freeTextTerms ++ terms } := by
  unfold Criteria.addAll
  induction terms generalizing c f with
  | nil => simpa using h
  | cons term terms ih =>
    subst h
    have hterm : (c.add kind fun g => g.withFreeText term).Holds
        { c.filter.bare with freeTextTerms := c.filter.freeTextTerms ++ [term] } := rfl
    simpa [ItemFilter.bare] using ih hterm

end Holds

/-! ## The parts -/

/-- The phrases of an utterance that are tags, the area or the name of the assignee. -/
def usedPhrases (text : List Char) : List String :=
  (Patterns.tagged.findAll text).filterMap keptPhrase
    ++ ((Patterns.area.find? text).bind keptPhrase).toList
    ++ ((Patterns.assignedToName.find? text).bind keptPhrase).toList

/-- The search terms that an utterance has in quotes. -/
def quotedTerms (text : List Char) : List String :=
  ((Patterns.quotedPhrase.findAll text).filterMap keptPhrase).filter
    fun p => !(usedPhrases text).contains p

/-- The search terms of an utterance that follow words such as `mentioning`. -/
def mentionedTerms (r : Registry) (text : List Char) : List String :=
  ((Patterns.mentioning.findAll text).map fun place => place.text 1).filter
    fun term => !(r.normalizeWorkItemType term).mapped

theorem ofUtterance_parts (r : Registry) (utterance : String) :
    (ofUtterance r utterance).filter.bare =
      { ids := ids utterance.toList
        dateWindow := window utterance.toList
        freeTextTerms := quotedTerms utterance.toList ++ mentionedTerms r utterance.toList } := by
  obtain ⟨c, extras, hholds, heq⟩ : ∃ c extras,
      Holds c
        { ids := [] ++ ids utterance.toList
          dateWindow := (window utterance.toList).or none
          freeTextTerms := [] ++ quotedTerms utterance.toList ++
            mentionedTerms r utterance.toList } ∧
      ofUtterance r utterance = ⟨{ c.filter with extras := extras }, withoutRepeats c.matched⟩ := by
    refine ⟨_, _, ?_, rfl⟩
    refine Holds.start
      |>.addIds _
      |>.addMaybe (fun f names => f.bare_withAny _ _ _ names) _
      |>.addMaybe (fun f entry => ?state) _
      |>.addMaybe (fun f bounds => f.bare_withPriorityRange _ _) _
      |>.addWindow _
      |>.addAll (fun f tag => f.bare_withSingle _ _ _) _
      |>.addMaybe (fun f path => f.bare_withSingle _ _ _) _
      |>.addMaybe (fun f who => f.bare_withSingle _ _ _) _
      |>.addTerms _
      |>.addTerms _
    case state =>
      obtain ⟨word, states, asked⟩ := entry
      cases asked <;> exact f.bare_withAny _ _ _ states
  rw [heq]
  simp only [List.nil_append, Option.or_none] at hholds
  exact hholds

theorem ofUtterance_dateWindow (r : Registry) (utterance : String) :
    (ofUtterance r utterance).filter.dateWindow = window utterance.toList :=
  congrArg ItemFilter.dateWindow (ofUtterance_parts r utterance)

theorem ofUtterance_freeTextTerms (r : Registry) (utterance : String) :
    (ofUtterance r utterance).filter.freeTextTerms =
      quotedTerms utterance.toList ++ mentionedTerms r utterance.toList :=
  congrArg ItemFilter.freeTextTerms (ofUtterance_parts r utterance)

/-! ## Item numbers -/

section Repeats

variable {α : Type} [DecidableEq α] {items : List α}

theorem withoutRepeats_eq_destutter (items : List α) :
    withoutRepeats items = items.destutter (· ≠ ·) := by
  induction items using withoutRepeats.induct with
  | case1 a b rest heq ih =>
    obtain rfl := beq_iff_eq.mp heq
    rw [withoutRepeats, if_pos heq, ih, List.destutter_cons', List.destutter_cons',
      List.destutter'_cons_neg _ (not_not.mpr rfl)]
  | case2 a b rest hne ih =>
    have hne' : a ≠ b := fun heq => hne (beq_iff_eq.mpr heq)
    rw [withoutRepeats, if_neg hne, ih, List.destutter_cons', List.destutter_cons',
      List.destutter'_cons_pos _ hne']
  | case3 short hshort =>
    rcases short with _ | ⟨a, _ | ⟨b, rest⟩⟩
    · rfl
    · rfl
    · exact absurd rfl (hshort a b rest)

/-- An item is left twice just if it comes again after another one. -/
theorem nodup_withoutRepeats_iff : (withoutRepeats items).Nodup ↔
    ∀ a b, [a, b, a].Sublist items → a = b := by
  induction items using withoutRepeats.induct with
  | case1 first second rest heq ih =>
    obtain rfl := beq_iff_eq.mp heq
    rw [withoutRepeats, if_pos heq, ih]
    constructor
    · intro h a b hsub
      by_contra hab
      refine hab (h a b ?_)
      rcases List.sublist_cons_iff.mp hsub with hsub | ⟨tail, htail, hsub⟩
      · exact hsub
      · -- the item between the two is another one, so that it stands in the rest
        cases htail
        rcases List.sublist_cons_iff.mp hsub with hsub | ⟨tail, htail, -⟩
        · exact hsub.cons_cons first
        · cases htail
          exact absurd rfl hab
    · exact fun h a b hsub => h a b (hsub.cons first)
  | case2 first second rest hne ih =>
    have hne : first ≠ second := fun heq => hne (beq_iff_eq.mpr heq)
    rw [withoutRepeats, if_neg (by simpa using hne), List.nodup_cons, mem_withoutRepeats, ih]
    constructor
    · rintro ⟨hfirst, h⟩ a b hsub
      rcases List.sublist_cons_iff.mp hsub with hsub | ⟨tail, htail, hsub⟩
      · exact h a b hsub
      · cases htail
        exact absurd (hsub.subset (by simp)) hfirst
    · intro h
      refine ⟨fun hmem => ?_, fun a b hsub => h a b (hsub.cons first)⟩
      have hrest : first ∈ rest := (List.mem_cons.mp hmem).resolve_left hne
      have hagain : [first, second, first].Sublist (first :: second :: rest) :=
        ((List.singleton_sublist.mpr hrest).cons_cons second).cons_cons first
      exact hne (h first second hagain)
  | case3 short hshort =>
    rcases short with _ | ⟨only, _ | ⟨second, rest⟩⟩
    · exact iff_of_true List.nodup_nil (by simp)
    · refine iff_of_true (List.nodup_singleton only) fun a b hsub => ?_
      have hlength := hsub.length_le
      simp at hlength
    · exact absurd rfl (hshort only second rest)

end Repeats

/-- The numbers that an utterance names, first those after a number sign, then those after a noun. -/
def numbers (text : List Char) : List Nat :=
  let afterHash := (Patterns.hashId.findAll text).filterMap numberOf?
  let afterNoun := (Patterns.nounIds.findAll text).flatMap fun place =>
    (Patterns.number.findAll ((place.text? 1).getD [])).filterMap numberOf?
  (afterHash ++ afterNoun).filter (0 < ·)

/-- Of the numbers that an utterance names those are left that differ from the one before. So one is
there twice just if it is named again after another number. -/
theorem ofUtterance_ids (r : Registry) (utterance : String) :
    (ofUtterance r utterance).filter.ids = (numbers utterance.toList).destutter (· ≠ ·) ∧
      ((ofUtterance r utterance).filter.ids.Nodup ↔
        ∀ a b, [a, b, a].Sublist (numbers utterance.toList) → a = b) := by
  have hids : (ofUtterance r utterance).filter.ids = withoutRepeats (numbers utterance.toList) :=
    congrArg ItemFilter.ids (ofUtterance_parts r utterance)
  rw [hids]
  exact ⟨withoutRepeats_eq_destutter _, nodup_withoutRepeats_iff⟩

/-- Each number is found after its sign and once more after the noun. -/
theorem ofUtterance_ids_bugs :
    ¬(ofUtterance Registry.standard "bugs #7 and #9").filter.ids.Nodup := by
  have hids : (ofUtterance Registry.standard "bugs #7 and #9").filter.ids = [7, 9, 7, 9] := by
    decide +kernel
  rw [hids]
  decide

end Criteria
end WorkQuery
