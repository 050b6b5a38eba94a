import WorkQuery.Proofs.Field.TypeNames
import WorkQuery.Proofs.Intent.Origins
import WorkQuery.Proofs.Query.Shapes
import WorkQuery.Proofs.Query.Standard

/-!
# WorkQuery.Proofs.Intent.Compilable

The criteria of an utterance name what their filter asks for, and the filter compiles
(`Criteria.ofUtterance_faithful`) unless there is nothing to select items by, or the days that it was
given are in the wrong order.

* `Compiler.comparison_exists`: a sufficient condition on a predicate.
* `Compiler.check_eq`: a filter whose other parts compile fails with its date window or not at all.
* `Finds.comparison_exists`: the conditions that an utterance adds satisfy the first.
-/

namespace WorkQuery

/-! ## Parts that compile -/

namespace Compiler

variable {c : Compiler} {ctx : QueryContext}

/-- A predicate compiles if its field is known and takes the operator and every value. -/
theorem comparison_exists {p : Predicate} {field : FieldDef}
    (hfield : c.registry.resolve? p.field = some field)
    (haccepts : field.valueType.accepts p.operator = true) (hsuits : p.value.Suits p.operator)
    (hsearch : ∀ t, .text t ∈ p.value.literals → p.operator.isSearch = true →
      Text.isBlankText t = false)
    (hrender : ∀ l ∈ p.value.literals, ∃ v, l.render field ctx = .ok v)
    (hreference : checkReference field = .ok ()) : ∃ cmp, c.comparison ctx p = .ok cmp := by
  obtain ⟨values, hvalues⟩ := exists_forall₂ hrender
  have hchecked : checkSearch field p.operator p.value.literals = .ok () := by
    cases hls : p.value.literals with
    | nil => rfl
    | cons l more =>
      cases l with
      | integer n => rfl
      | text t =>
        have hblank : (p.operator.isSearch && Text.isBlankText t) = false := by
          cases hop : p.operator.isSearch with
          | false => rfl
          | true => rw [hsearch t (hls ▸ List.mem_cons_self) hop]; rfl
        simp only [checkSearch, hblank, Bool.false_eq_true, if_false]
  refine ⟨⟨field, p.operator, values⟩, ?_⟩
  rw [comparison_eq, hfield]
  simp only [haccepts, if_true, literals_of_suits hsuits, ok_bind, hchecked,
    mapM_ok_iff.mpr hvalues, hreference]

/-- A date window on a field of dates compiles if it has a shape. -/
theorem windowComparisons_eq {w : DateWindow} {field : FieldDef}
    (hfield : c.field w.field = .ok field) (hdated : field.valueType = .dateTime)
    (hreference : checkReference field = .ok ()) :
    (∀ range, w.range = .ok range → ∃ cmps, c.windowComparisons ctx w = .ok cmps) ∧
      ∀ fault, w.range = .error fault →
        c.windowComparisons ctx w = .error (.invalidValue field.reference (.window fault)) := by
  unfold windowComparisons
  simp only [hfield, hdated, hreference, ok_bind]
  refine ⟨fun range hrange => ?_, fun fault hrange => ?_⟩
  · rw [hrange]
    cases range <;> exact ⟨_, rfl⟩
  · rw [hrange]
    rfl

theorem termsCondition_exists {terms : List String}
    (h : ∀ t ∈ terms, Text.isBlankText t = false) : ∃ conds, termsCondition terms = .ok conds := by
  have hterms : ∀ t ∈ terms, ∃ cond, termCondition t = .ok cond := by
    intro t ht
    have hne : (Text.trim t).toList.isEmpty = false := by simpa using Text.trim_ne_nil (h t ht)
    exact ⟨_, by rw [termCondition, hne]; rfl⟩
  obtain ⟨conds, hconds⟩ := exists_forall₂ hterms
  rw [termsCondition, mapM_ok_iff.mpr hconds, ok_bind]
  rcases conds with _ | ⟨first, _ | ⟨second, rest⟩⟩ <;> exact ⟨_, rfl⟩

/-- A filter whose other parts compile fails with its date window or not at all. -/
theorem check_eq {f : ItemFilter} (hids : 0 ∉ f.ids)
    (hpredicates : ∀ p ∈ f.predicates, ∃ cmp, c.comparison .default p = .ok cmp)
    (hterms : ∀ t ∈ f.freeTextTerms, Text.isBlankText t = false) (hsort : f.sort = none)
    (hcap : f.maxItems = none) :
    c.check f =
      if f.isEmpty then .error .emptyFilter
      else
        match f.dateWindow with
        | some w => (c.windowComparisons .default w).map fun _ => ()
        | none => .ok () := by
  obtain ⟨comparisons, hcomparisons⟩ := exists_forall₂ hpredicates
  obtain ⟨conds, hconds⟩ := termsCondition_exists hterms
  obtain ⟨ids, hids⟩ : ∃ ids : List Condition, (if f.ids.isEmpty then .ok []
      else (idsCondition f.ids).map fun cond => [cond]) = .ok ids := by
    have hzero : f.ids.contains 0 = false := by simpa using hids
    rw [idsCondition, hzero]
    split <;> exact ⟨_, rfl⟩
  unfold check compile
  rw [filterConditions_eq, hids, mapM_ok_iff.mpr hcomparisons, hconds, hsort, hcap]
  cases hempty : f.isEmpty with
  | true => rfl
  | false =>
    cases f.dateWindow with
    | none => rfl
    | some w => cases hw : c.windowComparisons .default w <;> simp [hw] <;> rfl

end Compiler

namespace Criteria

variable {r : Registry} {c : Compiler} {ctx : QueryContext} {text : List Char}

/-! ## The date window -/

/-- The two days that an utterance names, the first after the second. -/
def AreReversed (text : List Char) (start finish : Date) : Prop :=
  dayAfter Patterns.sinceDate text = some start ∧ dayAfter Patterns.untilDate text = some finish ∧
    finish < start

/-- The days of a window make a range unless they are in the wrong order. -/
theorem range_days (field : String) {start finish : Option Date}
    (h : (start.isSome || finish.isSome) = true) :
    (∃ range, DateWindow.range ⟨field, none, start, finish⟩ = .ok range) ∨
      ∃ first last, start = some first ∧ finish = some last ∧ last < first ∧
        DateWindow.range ⟨field, none, start, finish⟩ = .error (.reversed first last) := by
  cases start with
  | none =>
    cases finish with
    | none => cases h
    | some last => exact .inl ⟨_, rfl⟩
  | some first =>
    cases finish with
    | none => exact .inl ⟨_, rfl⟩
    | some last =>
      by_cases hlt : last < first
      · exact .inr ⟨first, last, rfl, rfl, hlt, if_pos hlt⟩
      · exact .inl ⟨_, if_neg hlt⟩

/-- The window that an utterance asks for is on a field of dates, and has a shape unless the days are
in the wrong order. -/
theorem window_range {w : DateWindow} (h : window text = some w) :
    ⟨w.field, .dateTime⟩ ∈ Standard.fields.map Registry.fieldOf ∧
      ((∃ range, w.range = .ok range) ∨ ∃ start finish, AreReversed text start finish ∧
        w.range = .error (.reversed start finish)) := by
  have hfield : ⟨if Patterns.creation.occursIn text then Reference.createdDate
      else Reference.changedDate, .dateTime⟩ ∈ Standard.fields.map Registry.fieldOf := by
    split <;> decide
  simp only [window] at h
  split at h
  · rename_i hdays
    cases h
    refine ⟨hfield, (range_days _ hdays).imp_right ?_⟩
    rintro ⟨start, finish, hstart, hfinish, hlt, hrange⟩
    exact ⟨start, finish, ⟨hstart, hfinish, hlt⟩, hrange⟩
  · obtain ⟨period, -, rfl⟩ := Option.map_eq_some_iff.mp h
    exact ⟨hfield, .inl ⟨_, rfl⟩⟩

/-! ## Conditions on standard fields -/

theorem render_exists {field : FieldDef} (h : field.valueType ∈ [.string, .identity, .treePath])
    (t : String) : ∃ v, (Literal.text t).render field ctx = .ok v := by
  cases htype : field.valueType with
  | string | identity | treePath =>
    unfold Literal.render
    rw [htype]
    exact ⟨_, rfl⟩
  | integer | dateTime | plainText =>
    rw [htype] at h
    exact absurd h (by decide)

section StandardFields

variable (hc : c.registry.resolve? = Registry.standard.resolve?)

include hc

/-- A field of the standard vocabulary is found, and its reference can be written. -/
theorem standard_field (field : FieldDef) (h : field ∈ Standard.fields.map Registry.fieldOf) :
    c.registry.resolve? field.reference = some field ∧
      Compiler.checkReference field = .ok () := by
  have hrefers := Registry.standard_mem_refers h
  refine ⟨?_, by rw [Compiler.checkReference, hrefers.checks]⟩
  rw [hc]
  exact hrefers.resolves

/-- A condition of texts on a field that takes texts. -/
theorem texts_exist {reference : String} {type : ValueType} {op : Operator} {value : Operand}
    (hfield : ⟨reference, type⟩ ∈ Standard.fields.map Registry.fieldOf)
    (htype : type ∈ [.string, .identity, .treePath]) (haccepts : type.accepts op = true)
    (hsuits : value.Suits op) (htexts : ∀ l ∈ value.literals, ∃ t, l = .text t ∧
      (op.isSearch = true → Text.isBlankText t = false)) :
    ∃ cmp, c.comparison ctx ⟨reference, op, value⟩ = .ok cmp := by
  obtain ⟨hresolves, hreference⟩ := standard_field hc _ hfield
  refine Compiler.comparison_exists hresolves haccepts hsuits (fun t ht hop => ?_) (fun l hl => ?_)
    hreference
  · obtain ⟨t', heq, hblank⟩ := htexts _ ht
    cases heq
    exact hblank hop
  · obtain ⟨t, rfl, -⟩ := htexts l hl
    exact render_exists htype t

theorem text_exists {reference : String} (type : ValueType) {op : Operator} {t : String}
    (hfield : ⟨reference, type⟩ ∈ Standard.fields.map Registry.fieldOf)
    (htype : type ∈ [.string, .identity, .treePath]) (haccepts : type.accepts op = true)
    (hop : op.takesList = false) (hblank : op.isSearch = true → Text.isBlankText t = false) :
    ∃ cmp, c.comparison ctx ⟨reference, op, .single (.text t)⟩ = .ok cmp :=
  texts_exist hc hfield htype haccepts hop fun _ hl => ⟨t, List.mem_singleton.mp hl, hblank⟩

theorem priority_exists {op : Operator} (haccepts : ValueType.integer.accepts op = true)
    (hop : op.takesList = false) (n : Int) :
    ∃ cmp, c.comparison ctx ⟨Reference.priority, op, .single (.integer n)⟩ = .ok cmp := by
  obtain ⟨hresolves, hreference⟩ := standard_field hc ⟨Reference.priority, .integer⟩ (by decide)
  refine Compiler.comparison_exists hresolves haccepts hop (fun t ht => ?_) (fun l hl => ?_)
    hreference
  · cases List.mem_singleton.mp ht
  · rw [List.mem_singleton.mp hl]
    exact ⟨_, rfl⟩

/-- The condition that a field of short texts has one of some values, or none of them. -/
theorem anyOf_exists {reference : String}
    (hfield : ⟨reference, .string⟩ ∈ Standard.fields.map Registry.fieldOf) {one many : Operator}
    {values : List String} (hne : values ≠ [])
    (hops : (one, many) ∈ [(.eq, .inList), (.ne, .notInList)]) :
    ∃ cmp, c.comparison ctx (.anyOf reference one many values) = .ok cmp := by
  have hops : ValueType.string.accepts one = true ∧ one.takesList = false ∧ one.isSearch = false ∧
      ValueType.string.accepts many = true ∧ many.takesList = true ∧ many.isSearch = false := by
    simp only [List.mem_cons, List.not_mem_nil, or_false, Prod.mk.injEq] at hops
    rcases hops with ⟨rfl, rfl⟩ | ⟨rfl, rfl⟩ <;> decide
  obtain ⟨hone, hsingle, honeSearch, hmany, hlist, hmanySearch⟩ := hops
  cases values with
  | nil => exact absurd rfl hne
  | cons v more =>
    cases more with
    | nil =>
      exact text_exists hc .string hfield (by decide) hone hsingle (by rw [honeSearch]; exact nofun)
    | cons w more =>
      refine texts_exist hc hfield (by decide) hmany ⟨hlist, List.cons_ne_nil _ _⟩ fun l hl => ?_
      obtain ⟨t, -, rfl⟩ := List.mem_map.mp hl
      exact ⟨t, rfl, by rw [hmanySearch]; exact nofun⟩

/-- What an utterance adds to the filter compiles. -/
theorem Finds.comparison_exists {kind : Criterion} {part : ItemFilter}
    (h : Finds r text kind part) :
    ∀ p ∈ part.predicates, ∃ cmp, c.comparison ctx p = .ok cmp := by
  intro p hp
  cases h with
  | type hne =>
    obtain rfl := List.mem_singleton.mp hp
    exact anyOf_exists hc (by decide) hne (by decide)
  | stateIn hmem =>
    obtain rfl := List.mem_singleton.mp hp
    exact anyOf_exists hc (by decide) (stateWords_ne_nil _ hmem) (by decide)
  | stateNotIn hmem =>
    obtain rfl := List.mem_singleton.mp hp
    exact anyOf_exists hc (by decide) (stateWords_ne_nil _ hmem) (by decide)
  | priority hbounds =>
    rcases Predicate.mem_priorityBetween hp with rfl | rfl | rfl <;>
      exact priority_exists hc rfl rfl _
  | tag hplace hkept =>
    obtain rfl := List.mem_singleton.mp hp
    exact text_exists hc .string (by decide) (by decide) rfl rfl fun _ => keptPhrase_not_blank hkept
  | area hplace hkept =>
    obtain rfl := List.mem_singleton.mp hp
    exact text_exists hc .treePath (by decide) (by decide) rfl rfl fun _ => keptPhrase_not_blank hkept
  | person hplace hkept =>
    obtain rfl := List.mem_singleton.mp hp
    exact text_exists hc .identity (by decide) (by decide) rfl rfl nofun
  | me hname hoccurs =>
    obtain rfl := List.mem_singleton.mp hp
    exact text_exists hc .identity (by decide) (by decide) rfl rfl nofun
  | ids _ | date _ | phrase _ _ | mention _ => exact absurd hp List.not_mem_nil

/-- A window compiles unless its days are in the wrong order. -/
theorem windowComparisons_cases (ctx : QueryContext) {w : DateWindow} (h : window text = some w) :
    (∃ cmps, c.windowComparisons ctx w = .ok cmps) ∨
      ∃ start finish, AreReversed text start finish ∧ c.windowComparisons ctx w =
        .error (.invalidValue w.field (.window (.reversed start finish))) := by
  obtain ⟨hfield, hrange⟩ := window_range h
  obtain ⟨hresolves, hreference⟩ := standard_field hc _ hfield
  obtain ⟨hok, herror⟩ :=
    Compiler.windowComparisons_eq (Compiler.field_ok_iff.mpr hresolves) rfl hreference
  rcases hrange with ⟨range, hrange⟩ | ⟨start, finish, hreversed, hrange⟩
  · exact .inl (hok range hrange)
  · exact .inr ⟨start, finish, hreversed, herror _ hrange⟩

end StandardFields

/-! ## The filter of an utterance -/

namespace Found

variable {now : Criterion} {k : Criteria}

theorem ids_pos (h : Found r text now k) : 0 ∉ k.filter.ids := fun hzero =>
  Nat.lt_irrefl 0 (mem_ids (h.ids_origin hzero)).1

theorem terms_not_blank (h : Found r text now k) :
    ∀ term ∈ k.filter.freeTextTerms, Text.isBlankText term = false := by
  intro term hterm
  rcases h.terms_origin hterm with ⟨place, hplace, hkept⟩ | ⟨place, hplace, rfl⟩
  · exact keptPhrase_not_blank hkept
  · obtain ⟨first, rest, htext, -, hfirst⟩ := mentioning_text (Pattern.matches_of_findAll hplace)
    simp [Place.text, htext, Text.isBlankText, hfirst]

section Check

variable (hc : c.registry.resolve? = Registry.standard.resolve?) (h : Found r text now k)
  (extras : Extras)

include hc h

/-- Of the parts of the filter only the date window may fail. -/
theorem check_eq : c.check { k.filter with extras } =
    if k.filter.isEmpty then .error .emptyFilter
    else
      match k.filter.dateWindow with
      | some w => (c.windowComparisons .default w).map fun _ => ()
      | none => .ok () := by
  refine Compiler.check_eq h.ids_pos (fun p hp => ?_) h.terms_not_blank h.plain.1 h.plain.2
  obtain ⟨kind, part, hfinds, hpart, -⟩ := h.predicates_origin hp
  exact hfinds.comparison_exists hc p hpart

/-- A filter that selects items compiles unless its days are in the wrong order. -/
theorem check_of_selects (hselects : k.filter.isEmpty = false) :
    c.check { k.filter with extras } = .ok () ∨
      ∃ field start finish, AreReversed text start finish ∧ c.check { k.filter with extras } =
        .error (.invalidValue field (.window (.reversed start finish))) := by
  rw [h.check_eq hc, hselects]
  cases hwindow : k.filter.dateWindow with
  | none => exact .inl rfl
  | some w =>
    show (c.windowComparisons .default w).map (fun _ => ()) = .ok () ∨ ∃ field start finish,
      AreReversed text start finish ∧ (c.windowComparisons .default w).map (fun _ => ()) = _
    rcases windowComparisons_cases hc .default (h.window_origin hwindow) with
      ⟨cmps, hcmps⟩ | ⟨start, finish, hreversed, herror⟩
    · exact .inl (by rw [hcmps]; rfl)
    · exact .inr ⟨_, start, finish, hreversed, by rw [herror]; rfl⟩

theorem check_emptyFilter_iff :
    c.check { k.filter with extras } = .error .emptyFilter ↔ k.filter.isEmpty = true := by
  cases hempty : k.filter.isEmpty with
  | true =>
    rw [h.check_eq hc, hempty]
    exact ⟨fun _ => rfl, fun _ => rfl⟩
  | false =>
    refine ⟨fun herror => ?_, nofun⟩
    rcases h.check_of_selects hc extras hempty with hok | ⟨field, start, finish, -, hwindow⟩
    · rw [hok] at herror
      cases herror
    · rw [hwindow] at herror
      cases herror

theorem check_error {e : CompileError} (he : c.check { k.filter with extras } = .error e) :
    e = .emptyFilter ∨ ∃ field start finish,
      e = .invalidValue field (.window (.reversed start finish)) ∧
        AreReversed text start finish := by
  cases hempty : k.filter.isEmpty with
  | true =>
    rw [(h.check_emptyFilter_iff hc extras).mpr hempty] at he
    cases he
    exact .inl rfl
  | false =>
    rcases h.check_of_selects hc extras hempty with hok | ⟨field, start, finish, hreversed, hwindow⟩
    · rw [hok] at he
      cases he
    · rw [hwindow] at he
      cases he
      exact .inr ⟨field, start, finish, rfl, hreversed⟩

end Check

end Found

/-- The kinds reported are those that the filter asks for, each once. The filter fails to compile if
it has nothing to select items by, or if the two days named are in the wrong order, and for no other
reason. -/
structure IsFaithful (compiler : Compiler) (text : List Char) (k : Criteria) : Prop where
  distinct : (k.matched.map Criterion.name).Nodup
  reported : ∀ kind, kind ∈ k.matched ↔ kind.IsIn k.filter
  empty : compiler.check k.filter = .error .emptyFilter ↔ k.matched = [] ∨ k.matched = [.date]
  fails : ∀ e, compiler.check k.filter = .error e → e = .emptyFilter ∨
    ∃ field start finish, e = .invalidValue field (.window (.reversed start finish)) ∧
      AreReversed text start finish

theorem nodup_all_date {kinds : List Criterion} (h : kinds.Nodup) :
    kinds = [] ∨ kinds = [.date] ↔ ∀ kind ∈ kinds, kind = .date := by
  constructor
  · rintro (rfl | rfl)
    · exact nofun
    · exact List.forall_mem_singleton.mpr rfl
  · intro hall
    rcases kinds with _ | ⟨first, _ | ⟨second, rest⟩⟩
    · exact .inl rfl
    · exact .inr (by rw [hall first List.mem_cons_self])
    · have hfirst := hall first List.mem_cons_self
      have hsecond := hall second (by simp)
      have hne := (List.pairwise_cons.mp h).1 second List.mem_cons_self
      exact absurd (hfirst.trans hsecond.symm) hne

/-- The criteria of every utterance are of this kind where fields are found as in the standard
vocabulary. The types of the registry have no part in it. -/
theorem isFaithful_of_resolve? (hr : r.resolve? = Registry.standard.resolve?) (caps : ResultCaps)
    (utterance : String) :
    IsFaithful ⟨r, caps⟩ utterance.toList (ofUtterance r utterance) := by
  obtain ⟨k, extras, hfound, heq⟩ := ofUtterance_found r utterance
  have hnodup := nodup_withoutRepeats Criterion.rank_injective hfound.sorted.1
  rw [heq]
  refine ⟨List.Nodup.map Criterion.name_injective hnodup, fun kind => ?reported, ?empty, fun e he =>
    hfound.check_error (c := ⟨r, caps⟩) hr extras he⟩
  case reported =>
    rw [mem_withoutRepeats, hfound.mem_matched_iff]
    cases kind <;> rfl
  case empty =>
    rw [hfound.check_emptyFilter_iff (c := ⟨r, caps⟩) hr extras, nodup_all_date hnodup,
      hfound.isEmpty_iff]
    simp only [mem_withoutRepeats]

/-- So they are whatever synonyms of types are added to the standard vocabulary, and in whatever order
these are gone through. -/
theorem ofUtterance_faithful (synonyms : List (String × String)) (order : Entries String)
    (caps : ResultCaps) (utterance : String) :
    let r := (Registry.standard.withTypeSynonyms synonyms).inOrder order
    IsFaithful ⟨r, caps⟩ utterance.toList (ofUtterance r utterance) := by
  have hr := Registry.standard.resolve?_inOrder synonyms order
  exact isFaithful_of_resolve? hr caps utterance

example : (ofUtterance Registry.standard "P2 bugs since 2024-02-01").matched =
    [.type, .priority, .date] := by
  decide +kernel

end Criteria
end WorkQuery
