import WorkQuery.Proofs.Intent.Compilable
import WorkQuery.Proofs.Intent.Decisions
import WorkQuery.Proofs.Intent.Parts

/-!
# WorkQuery.Proofs.Intent.CachedItems

When cues and criteria decide for an analysis of the items at hand.

* `Criteria.check_ofUtterance_iff`: the filter of an utterance compiles just if something but a date
  has been recognised and the days are not in the wrong order.
* `Classifier.byHeuristic_cached_iff`: the items at hand are analysed if an analysis is asked for, and
  the utterance points back and names no new items, or has no criteria that compile.
* `Classifier.byHeuristic_names`: so a period or a type that is named is passed over only if nothing
  else is named than a period, or the days are in the wrong order.
-/

namespace WorkQuery

/-! ## Criteria that compile -/

namespace Criteria

variable {text : List Char} {start finish : Date}

theorem window_of_reversed (h : AreReversed text start finish) :
    ∃ w, window text = some w ∧ w.range = .error (.reversed start finish) := by
  obtain ⟨hstart, hfinish, hlt⟩ := h
  have hwindow : window text = some
      { field := if Patterns.creation.occursIn text then Reference.createdDate
          else Reference.changedDate
        start := some start
        finish := some finish } := by
    simp [window, hstart, hfinish]
  exact ⟨_, hwindow, if_pos hlt⟩

/-- Days in the wrong order do not compile, whatever else is asked for. -/
theorem check_of_reversed {r : Registry} (hr : r.resolve? = Registry.standard.resolve?)
    (caps : ResultCaps) {utterance : String} (h : AreReversed utterance.toList start finish) :
    ∃ e, (⟨r, caps⟩ : Compiler).check (ofUtterance r utterance).filter = .error e := by
  obtain ⟨w, hw, hrange⟩ := window_of_reversed h
  have hdate := (ofUtterance_dateWindow r utterance).trans hw
  obtain ⟨k, extras, hfound, heq⟩ := ofUtterance_found r utterance
  rw [heq] at hdate ⊢
  have hdate : k.filter.dateWindow = some w := hdate
  obtain ⟨hresolves, hreference⟩ := standard_field (c := ⟨r, caps⟩) hr _ (window_range hw).1
  have hfails : (⟨r, caps⟩ : Compiler).windowComparisons .default w = .error _ :=
    (Compiler.windowComparisons_eq (Compiler.field_ok_iff.mpr hresolves) rfl hreference).2 _ hrange
  rw [hfound.check_eq (c := ⟨r, caps⟩) hr extras, hdate]
  cases k.filter.isEmpty with
  | true => exact ⟨_, rfl⟩
  | false =>
    simp only [Bool.false_eq_true, if_false, hfails]
    exact ⟨_, rfl⟩

theorem check_ofUtterance_iff {r : Registry} (hr : r.resolve? = Registry.standard.resolve?)
    (caps : ResultCaps) (utterance : String) :
    (⟨r, caps⟩ : Compiler).check (ofUtterance r utterance).filter = .ok () ↔
      (ofUtterance r utterance).matched ≠ [] ∧ (ofUtterance r utterance).matched ≠ [.date] ∧
        ∀ start finish, ¬AreReversed utterance.toList start finish := by
  have hfaithful := isFaithful_of_resolve? hr caps utterance
  constructor
  · intro hok
    have hselects : ¬((ofUtterance r utterance).matched = [] ∨
        (ofUtterance r utterance).matched = [.date]) := by
      intro hnone
      cases hok.symm.trans (hfaithful.empty.mpr hnone)
    refine ⟨fun h => hselects (.inl h), fun h => hselects (.inr h), fun start finish h => ?_⟩
    obtain ⟨e, he⟩ := check_of_reversed hr caps h
    cases hok.symm.trans he
  · rintro ⟨hsome, hmore, horder⟩
    cases hcheck : (⟨r, caps⟩ : Compiler).check (ofUtterance r utterance).filter with
    | ok => rfl
    | error e =>
      rcases hfaithful.fails e hcheck with rfl | ⟨_, start, finish, -, hreversed⟩
      · rcases hfaithful.empty.mp hcheck with hnone | hdate
        · exact absurd hnone hsome
        · exact absurd hdate hmore
      · exact absurd hreversed (horder start finish)

end Criteria

/-! ## Decisions for the items at hand -/

namespace Classifier

open Criteria

variable {c : Classifier} {text : String}

theorem namesNewItems_eq_false {criteria : Criteria} : namesNewItems criteria = false ↔
    .date ∉ criteria.matched ∧ .type ∉ criteria.matched := by
  simp only [namesNewItems, List.any_eq_false, Bool.or_eq_true, beq_iff_eq, not_or]
  constructor
  · exact fun h => ⟨fun hdate => (h _ hdate).1 rfl, fun htype => (h _ htype).2 rfl⟩
  · rintro ⟨hdate, htype⟩ kind hkind
    exact ⟨fun heq => hdate (heq ▸ hkind), fun heq => htype (heq ▸ hkind)⟩

/-- Beside an analysis, criteria that do not compile count as none. -/
theorem retrieves_analysis (c : Classifier) (criteria : Criteria) :
    ∃ yes, c.retrieves criteria true = .ok yes ∧
      (yes = true ↔ criteria.matched ≠ [] ∧ c.compiler.check criteria.filter = .ok ()) := by
  unfold retrieves
  have hfound : criteria.found = true ↔ criteria.matched ≠ [] := by simp [Criteria.found]
  by_cases hsome : criteria.found = true
  · cases hcheck : c.compiler.check criteria.filter with
    | ok => exact ⟨true, by simp [hsome], by simp [hfound.mp hsome]⟩
    | error e => exact ⟨false, by simp [hsome], by simp⟩
  · exact ⟨false, by simp [hsome], by simp [hfound.not.mp hsome]⟩

theorem byHeuristic_cached_iff :
    (∃ d, c.byHeuristic text = .ok d ∧ d.kind = .cachedAnalysis) ↔
      (c.settings.cues.scan text).wantsAnalysis = true ∧
        ((c.settings.cues.scan text).refersBack = true ∧
            namesNewItems (c.criteria text) = false ∨
          ¬((c.criteria text).matched ≠ [] ∧
            c.compiler.check (c.criteria text).filter = .ok ())) := by
  cases hwants : (c.settings.cues.scan text).wantsAnalysis with
  | false =>
    refine iff_of_false ?_ fun h => Bool.false_ne_true h.1
    rintro ⟨d, hd, hkind⟩
    simp only [byHeuristic, hwants, bind_ok_iff, Bool.false_and, Bool.false_eq_true, if_false] at hd
    obtain ⟨yes, -, hd⟩ := hd
    cases yes with
    | true =>
      cases hd
      cases hkind
    | false => cases hd
  | true =>
    obtain ⟨yes, hyes, hiff⟩ := c.retrieves_analysis (c.criteria text)
    rw [← hiff, and_iff_right rfl]
    simp only [byHeuristic, hwants, hyes, ok_bind, Bool.true_and]
    by_cases hback : ((c.settings.cues.scan text).refersBack &&
        !namesNewItems (c.criteria text)) = true
    · rw [if_pos hback]
      rw [Bool.and_eq_true, Bool.not_eq_true'] at hback
      exact iff_of_true ⟨_, rfl, rfl⟩ (.inl hback)
    · rw [if_neg hback]
      rw [Bool.and_eq_true, Bool.not_eq_true'] at hback
      cases yes with
      | true =>
        refine iff_of_false ?_ fun h => h.elim hback fun hnot => hnot rfl
        rintro ⟨d, hd, hkind⟩
        cases hd
        cases hkind
      | false => exact iff_of_true ⟨_, rfl, rfl⟩ (.inr Bool.false_ne_true)

/-- Whatever the cues are, and the synonyms of types in whatever order: where the items at hand are
analysed, neither a period nor a type has been named, as long as an analysis is not asked for beside a
period alone or days in the wrong order. -/
theorem byHeuristic_names (synonyms : List (String × String)) (order : Entries String)
    (caps : ResultCaps) (settings : ClassifierSettings) (hasOracle : Bool) (text : String) :
    let r := (Registry.standard.withTypeSynonyms synonyms).inOrder order
    let c : Classifier := ⟨⟨r, caps⟩, settings, hasOracle⟩
    (∀ d, c.byHeuristic text = .ok d → d.kind = .cachedAnalysis →
      .date ∉ (c.criteria text).matched ∧ .type ∉ (c.criteria text).matched) ↔
    ((settings.cues.scan text).wantsAnalysis = true → (c.criteria text).matched ≠ [.date] ∧
      ∀ start finish, ¬AreReversed text.toList start finish) := by
  intro r c
  have hr : r.resolve? = Registry.standard.resolve? :=
    Registry.standard.resolve?_inOrder synonyms order
  have hcompiles := check_ofUtterance_iff hr caps text
  have hfaithful := isFaithful_of_resolve? hr caps text
  constructor
  · intro hall hwants
    -- criteria that do not compile leave the items at hand
    have hnone : ¬((c.criteria text).matched ≠ [] ∧
        c.compiler.check (c.criteria text).filter = .ok ()) →
        .date ∉ (c.criteria text).matched := by
      intro hnot
      obtain ⟨d, hd, hkind⟩ := byHeuristic_cached_iff.mpr ⟨hwants, .inr hnot⟩
      exact (hall d hd hkind).1
    refine ⟨fun hdate => ?_, fun start finish hreversed => ?_⟩
    · refine hnone (fun h => (hcompiles.mp h.2).2.1 hdate) ?_
      rw [hdate]
      exact List.mem_singleton_self _
    · refine hnone (fun h => (hcompiles.mp h.2).2.2 start finish hreversed) ?_
      obtain ⟨w, hw, -⟩ := window_of_reversed hreversed
      refine (hfaithful.reported .date).mpr ?_
      rw [Criterion.IsIn, ofUtterance_dateWindow, hw]
      exact Option.some_ne_none w
  · intro hgood d hd hkind
    obtain ⟨hwants, hcached⟩ := byHeuristic_cached_iff.mp ⟨d, hd, hkind⟩
    obtain ⟨hmore, horder⟩ := hgood hwants
    rcases hcached with ⟨-, hnames⟩ | hnot
    · exact namesNewItems_eq_false.mp hnames
    · have hempty : (c.criteria text).matched = [] := by
        by_contra hsome
        exact hnot ⟨hsome, hcompiles.mpr ⟨hsome, hmore, horder⟩⟩
      rw [hempty]
      exact ⟨List.not_mem_nil, List.not_mem_nil⟩

/-- Days in the wrong order, though a type is named as well, and a week alone: either way the items at
hand are analysed in their place. -/
theorem byHeuristic_names_summarize :
    let c : Classifier := ⟨Compiler.standard, {}, false⟩
    ∀ entry ∈ [("summarize bugs since 2024-05-02 until 2024-05-01", [Criterion.type, .date]),
        ("summarize this week", [.date])],
      (c.criteria entry.1).matched = entry.2 ∧
        (c.byHeuristic entry.1).toOption.map Decision.kind = some .cachedAnalysis := by
  decide +kernel

end Classifier
end WorkQuery
