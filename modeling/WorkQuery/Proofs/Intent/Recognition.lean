import WorkQuery.Intent.Criteria
import Mathlib.Data.List.Nodup

/-!
# WorkQuery.Proofs.Intent.Recognition

How the criteria of an utterance come about.

* `Criteria.Finds`: what may be recognised in an utterance, and what it adds to the filter, one rule
  for each way of asking.
* `Criteria.Found`: the criteria after some of it has been recognised, kind by kind. Those of the
  whole utterance are among them (`ofUtterance_found`).
* `Found.origin`: what the filter holds, one of its parts holds; from it, where each part of the
  filter comes from (`ids_origin`, `predicate_origin`, `terms_origin`, `window_origin`).
* `Found.mem_matched_iff`, `Found.sorted`: a kind is reported just if the filter has a condition of
  that kind, and the kinds come in order, so that none is left twice (`nodup_withoutRepeats`).
-/

namespace WorkQuery

/-! ## Parts of a filter -/

namespace Predicate

/-- The condition that a field has one of these values. -/
def anyOf (field : String) (one many : Operator) : List String → Predicate
  | [value] => ⟨field, one, .single (.text value)⟩
  | values => ⟨field, many, .list (values.map .text)⟩

/-- The conditions that a priority lies between two bounds. -/
def priorityBetween (low high : Int) : List Predicate :=
  if low = high then [⟨Reference.priority, .eq, .single (.integer low)⟩]
  else [⟨Reference.priority, .ge, .single (.integer low)⟩,
    ⟨Reference.priority, .le, .single (.integer high)⟩]

theorem mem_priorityBetween {low high : Int} {p : Predicate} (h : p ∈ priorityBetween low high) :
    p = ⟨Reference.priority, .eq, .single (.integer low)⟩ ∨
      p = ⟨Reference.priority, .ge, .single (.integer low)⟩ ∨
      p = ⟨Reference.priority, .le, .single (.integer high)⟩ := by
  unfold priorityBetween at h
  split at h
  · exact .inl (List.mem_singleton.mp h)
  · exact .inr (by simpa using h)

end Predicate

namespace ItemFilter

/-- The filter with the conditions of another one; a new window replaces an old one. -/
def adding (f part : ItemFilter) : ItemFilter :=
  { f with
    ids := f.ids ++ part.ids
    predicates := f.predicates ++ part.predicates
    dateWindow := part.dateWindow.or f.dateWindow
    freeTextTerms := f.freeTextTerms ++ part.freeTextTerms }

/-- A filter of conditions on fields only. -/
def ofPredicates (ps : List Predicate) : ItemFilter := { predicates := ps }

variable (f : ItemFilter)

theorem withIds_eq (ids : List Nat) : f.withIds ids = f.adding { ids } := by
  simp [withIds, adding]

theorem withSingle_eq (field : String) (op : Operator) (value : Literal) :
    f.withSingle field op value = f.adding (ofPredicates [⟨field, op, .single value⟩]) := by
  simp [withSingle, withPredicate, ofPredicates, adding]

theorem withAny_eq (field : String) (one many : Operator) {values : List String}
    (hne : values ≠ []) :
    f.withAny field one many values = f.adding (ofPredicates [.anyOf field one many values]) := by
  cases values with
  | nil => exact absurd rfl hne
  | cons v more =>
    cases more with
    | nil => exact f.withSingle_eq field one (.text v)
    | cons w more => simp [withAny, withPredicate, Predicate.anyOf, ofPredicates, adding]

theorem withPriorityRange_eq (low high : Int) : f.withPriorityRange low high =
    f.adding (ofPredicates (Predicate.priorityBetween low high)) := by
  by_cases h : low = high
  · rw [withPriorityRange, if_pos h, withSingle_eq, Predicate.priorityBetween, if_pos h]
  · simp [withPriorityRange, Predicate.priorityBetween, h, withSingle, withPredicate, ofPredicates,
      adding]

theorem withDateWindow_eq (w : DateWindow) :
    f.withDateWindow w = f.adding { dateWindow := some w } := by
  simp [withDateWindow, adding]

theorem withFreeText_eq (term : String) :
    f.withFreeText term = f.adding { freeTextTerms := [term] } := by
  simp [withFreeText, adding]

/-- Whether there is a condition on the field. -/
def HasPredicateOn (reference : String) : Prop := ∃ p ∈ f.predicates, p.field = reference

end ItemFilter

/-! ## Kinds of criteria -/

namespace Criterion

/-- The place of a kind in the order in which they are looked for. -/
def rank : Criterion → Nat
  | .ids => 0
  | .type => 1
  | .state => 2
  | .priority => 3
  | .date => 4
  | .tag => 5
  | .area => 6
  | .assignee => 7
  | .text => 8

theorem rank_injective : Function.Injective rank := by
  intro a b h
  cases a <;> cases b <;> first | rfl | cases h

theorem name_injective : Function.Injective name := by
  intro a b h
  cases a <;> cases b <;> first | rfl | exact absurd h (by decide)

/-- The field that a criterion is about. -/
def field? : Criterion → Option String
  | .type => some Reference.workItemType
  | .state => some Reference.state
  | .priority => some Reference.priority
  | .tag => some Reference.tags
  | .area => some Reference.areaPath
  | .assignee => some Reference.assignedTo
  | .ids | .date | .text => none

/-- The kind of the criteria that are about a field. -/
def ofField? (reference : String) : Option Criterion :=
  [.type, .state, .priority, .tag, .area, .assignee].find? fun kind => kind.field? == some reference

theorem ofField?_eq {kind : Criterion} {reference : String} (h : kind.field? = some reference) :
    ofField? reference = some kind := by
  cases kind <;> cases h <;> decide

/-- No two kinds are about one field. -/
theorem eq_of_field? {kind other : Criterion} {reference : String}
    (h : kind.field? = some reference) (hother : other.field? = some reference) : kind = other :=
  Option.some.inj ((ofField?_eq h).symm.trans (ofField?_eq hother))

/-- Whether a filter has a condition of the kind. -/
def IsIn (f : ItemFilter) : Criterion → Prop
  | .ids => f.ids ≠ []
  | .type => f.HasPredicateOn Reference.workItemType
  | .state => f.HasPredicateOn Reference.state
  | .priority => f.HasPredicateOn Reference.priority
  | .date => f.dateWindow ≠ none
  | .tag => f.HasPredicateOn Reference.tags
  | .area => f.HasPredicateOn Reference.areaPath
  | .assignee => f.HasPredicateOn Reference.assignedTo
  | .text => f.freeTextTerms ≠ []

theorem isIn_of_field {kind : Criterion} {reference : String} (h : kind.field? = some reference)
    (f : ItemFilter) : kind.IsIn f ↔ f.HasPredicateOn reference := by
  cases kind <;> cases h <;> rfl

theorem isIn_adding {kind : Criterion} {f part : ItemFilter} :
    kind.IsIn (f.adding part) ↔ kind.IsIn f ∨ kind.IsIn part := by
  have hpredicates : ∀ reference, (f.adding part).HasPredicateOn reference ↔
      f.HasPredicateOn reference ∨ part.HasPredicateOn reference := by
    intro reference
    simp [ItemFilter.HasPredicateOn, ItemFilter.adding, or_and_right, exists_or]
  cases kind with
  | ids => simp [IsIn, ItemFilter.adding, imp_iff_not_or]
  | date =>
    cases hwindow : part.dateWindow <;> simp [IsIn, ItemFilter.adding, hwindow]
  | text => simp [IsIn, ItemFilter.adding, imp_iff_not_or]
  | type | state | priority | tag | area | assignee => exact hpredicates _

end Criterion

namespace Criteria

/-! ## What is recognised -/

/-- What may be recognised in an utterance: a criterion of that kind, which adds this to the
filter. -/
inductive Finds (r : Registry) (text : List Char) : Criterion → ItemFilter → Prop
  | ids : ids text ≠ [] → Finds r text .ids { ids := ids text }
  | type : types r [] (wordsOf text) ≠ [] →
    Finds r text .type (.ofPredicates
      [.anyOf Reference.workItemType .eq .inList (types r [] (wordsOf text))])
  | stateIn {word : String} {states : List String} : (word, states, true) ∈ stateWords →
    Finds r text .state (.ofPredicates [.anyOf Reference.state .eq .inList states])
  | stateNotIn {word : String} {states : List String} : (word, states, false) ∈ stateWords →
    Finds r text .state (.ofPredicates [.anyOf Reference.state .ne .notInList states])
  | priority {low high : Int} : priorities text = some (low, high) →
    Finds r text .priority (.ofPredicates (Predicate.priorityBetween low high))
  | date {w : DateWindow} : window text = some w → Finds r text .date { dateWindow := some w }
  | tag {place : Place} {tag : String} : place ∈ Patterns.tagged.findAll text →
    keptPhrase place = some tag →
    Finds r text .tag (.ofPredicates [⟨Reference.tags, .contains, .single (.text tag)⟩])
  | area {place : Place} {path : String} : Patterns.area.find? text = some place →
    keptPhrase place = some path →
    Finds r text .area (.ofPredicates [⟨Reference.areaPath, .under, .single (.text path)⟩])
  | person {place : Place} {who : String} : Patterns.assignedToName.find? text = some place →
    keptPhrase place = some who →
    Finds r text .assignee (.ofPredicates [⟨Reference.assignedTo, .eq, .single (.text who)⟩])
  | me : (Patterns.assignedToName.find? text).bind keptPhrase = none →
    Patterns.assignedToMe.occursIn text = true →
    Finds r text .assignee (.ofPredicates [⟨Reference.assignedTo, .eq, .single (.text "me")⟩])
  | phrase {place : Place} {phrase : String} : place ∈ Patterns.quotedPhrase.findAll text →
    keptPhrase place = some phrase → Finds r text .text { freeTextTerms := [phrase] }
  | mention {place : Place} : place ∈ Patterns.mentioning.findAll text →
    Finds r text .text { freeTextTerms := [place.text 1] }

variable {r : Registry} {text : List Char}

namespace Finds

variable {kind : Criterion} {part : ItemFilter}

theorem ids_iff (h : Finds r text kind part) : part.ids ≠ [] ↔ kind = .ids := by
  cases h <;> simp_all [ItemFilter.ofPredicates]

theorem window_iff (h : Finds r text kind part) : part.dateWindow ≠ none ↔ kind = .date := by
  cases h <;> simp [ItemFilter.ofPredicates]

theorem terms_iff (h : Finds r text kind part) : part.freeTextTerms ≠ [] ↔ kind = .text := by
  cases h <;> simp [ItemFilter.ofPredicates]

/-- A part has conditions on the field of its kind, and on no other. -/
theorem predicates_iff (h : Finds r text kind part) (reference : String) :
    part.HasPredicateOn reference ↔ kind.field? = some reference := by
  have hany : ∀ field one many values, (Predicate.anyOf field one many values).field = field := by
    intro field one many values
    unfold Predicate.anyOf
    split <;> rfl
  have hbetween : ∀ low high : Int,
      (ItemFilter.ofPredicates (Predicate.priorityBetween low high)).HasPredicateOn reference ↔
        Reference.priority = reference := by
    intro low high
    unfold Predicate.priorityBetween
    split <;> simp [ItemFilter.HasPredicateOn, ItemFilter.ofPredicates]
  cases h with
  | priority hrange => rw [hbetween, Criterion.field?, Option.some_inj]
  | _ => simp [ItemFilter.HasPredicateOn, ItemFilter.ofPredicates, Criterion.field?, hany]

theorem isIn_iff (h : Finds r text kind part) {other : Criterion} :
    other.IsIn part ↔ kind = other := by
  have hfield : ∀ {reference}, other.field? = some reference →
      (part.HasPredicateOn reference ↔ kind = other) := by
    intro reference hother
    rw [h.predicates_iff]
    exact ⟨fun hkind => Criterion.eq_of_field? hkind hother, fun heq => heq ▸ hother⟩
  cases other with
  | ids => exact h.ids_iff
  | date => exact h.window_iff
  | text => exact h.terms_iff
  | type | state | priority | tag | area | assignee => exact hfield rfl

end Finds

/-! ## Kind by kind -/

/-- Criteria recognised in an utterance, of kinds up to the one that is looked for now. -/
inductive Found (r : Registry) (text : List Char) : Criterion → Criteria → Prop
  | start : Found r text .ids ⟨{}, []⟩
  | pass {now later : Criterion} {c : Criteria} : Found r text now c → now.rank ≤ later.rank →
    Found r text later c
  | add {now : Criterion} {c : Criteria} {part : ItemFilter} : Found r text now c →
    Finds r text now part → Found r text now ⟨c.filter.adding part, c.matched ++ [now]⟩

namespace Found

variable {now later : Criterion} {c : Criteria} {α : Type} {change : ItemFilter → α → ItemFilter}

theorem step (h : Found r text now c) {a : α} {part : ItemFilter} (hfinds : Finds r text now part)
    (hchange : ∀ f, change f a = f.adding part) :
    Found r text now (c.add now fun f => change f a) := by
  rw [Criteria.add, hchange]
  exact h.add hfinds

theorem addMaybe {value : Option α} (h : Found r text now c) (hlater : now.rank ≤ later.rank)
    (hvalue : ∀ a ∈ value, ∃ part, Finds r text later part ∧ ∀ f, change f a = f.adding part) :
    Found r text later (c.addMaybe later value change) := by
  cases value with
  | none => exact h.pass hlater
  | some a =>
    obtain ⟨part, hfinds, hchange⟩ := hvalue a rfl
    exact (h.pass hlater).step hfinds hchange

theorem addAll {values : List α} (h : Found r text now c) (hlater : now.rank ≤ later.rank)
    (hvalues : ∀ a ∈ values, ∃ part, Finds r text later part ∧ ∀ f, change f a = f.adding part) :
    Found r text later (c.addAll later values change) := by
  unfold Criteria.addAll
  induction values generalizing now c with
  | nil => exact h.pass hlater
  | cons a values ih =>
    obtain ⟨part, hfinds, hchange⟩ := hvalues a List.mem_cons_self
    exact ih ((h.pass hlater).step hfinds hchange) (Nat.le_refl _) fun b hb =>
      hvalues b (List.mem_cons_of_mem _ hb)

/-- A property that the whole filter has, and that is of no use to an empty filter, is that of one of
its parts. -/
theorem origin {P : ItemFilter → Prop} (h : Found r text now c) (hempty : ¬P {})
    (hadding : ∀ f part, P (f.adding part) → P f ∨ P part) (hP : P c.filter) :
    ∃ kind part, Finds r text kind part ∧ P part := by
  induction h with
  | start => exact absurd hP hempty
  | pass _ _ ih => exact ih hP
  | add _ hfinds ih => exact (hadding _ _ hP).elim ih fun hpart => ⟨_, _, hfinds, hpart⟩

theorem ids_origin (h : Found r text now c) {id : Nat} (hid : id ∈ c.filter.ids) :
    id ∈ ids text := by
  obtain ⟨kind, part, hfinds, hpart⟩ := h.origin (P := fun f => id ∈ f.ids) List.not_mem_nil
    (fun f part hmem => List.mem_append.mp hmem) hid
  cases hfinds with
  | ids => exact hpart
  | _ => exact absurd hpart List.not_mem_nil

theorem predicates_origin (h : Found r text now c) {p : Predicate}
    (hp : p ∈ c.filter.predicates) :
    ∃ kind part, Finds r text kind part ∧ p ∈ part.predicates ∧ kind.field? = some p.field := by
  obtain ⟨kind, part, hfinds, hpart⟩ := h.origin (P := fun f => p ∈ f.predicates)
    List.not_mem_nil (fun f part hmem => List.mem_append.mp hmem) hp
  exact ⟨kind, part, hfinds, hpart, (hfinds.predicates_iff p.field).mp ⟨p, hpart, rfl⟩⟩

/-- A condition on a field comes from a criterion of the kind that is about it. -/
theorem predicate_origin (h : Found r text now c) (kind : Criterion) {p : Predicate}
    (hp : p ∈ c.filter.predicates) (hkind : kind.field? = some p.field) :
    ∃ part, Finds r text kind part ∧ p ∈ part.predicates := by
  obtain ⟨other, part, hfinds, hpart, hother⟩ := h.predicates_origin hp
  cases Criterion.eq_of_field? hkind hother
  exact ⟨part, hfinds, hpart⟩

theorem terms_origin (h : Found r text now c) {term : String}
    (hterm : term ∈ c.filter.freeTextTerms) :
    (∃ place ∈ Patterns.quotedPhrase.findAll text, keptPhrase place = some term) ∨
      ∃ place ∈ Patterns.mentioning.findAll text, place.text 1 = term := by
  obtain ⟨kind, part, hfinds, hpart⟩ := h.origin (P := fun f => term ∈ f.freeTextTerms)
    List.not_mem_nil (fun f part hmem => List.mem_append.mp hmem) hterm
  cases hfinds with
  | phrase hplace hkept =>
    obtain rfl := List.mem_singleton.mp hpart
    exact .inl ⟨_, hplace, hkept⟩
  | mention hplace => exact .inr ⟨_, hplace, (List.mem_singleton.mp hpart).symm⟩
  | _ => exact absurd hpart List.not_mem_nil

theorem window_origin (h : Found r text now c) {w : DateWindow}
    (hw : c.filter.dateWindow = some w) : window text = some w := by
  obtain ⟨kind, part, hfinds, hpart⟩ := h.origin (P := fun f => f.dateWindow = some w) nofun
    (fun f part hor => (Option.or_eq_some_iff.mp hor).symm.imp And.right id) hw
  cases hfinds with
  | date hwindow => exact hwindow.trans hpart
  | _ => cases hpart

/-- An utterance asks for no order and no number of items. -/
theorem plain (h : Found r text now c) : c.filter.sort = none ∧ c.filter.maxItems = none := by
  induction h with
  | start => exact ⟨rfl, rfl⟩
  | pass _ _ ih => exact ih
  | add _ _ ih => exact ih

theorem mem_matched_iff (h : Found r text now c) {kind : Criterion} :
    kind ∈ c.matched ↔ kind.IsIn c.filter := by
  induction h with
  | start => cases kind <;> simp [Criterion.IsIn, ItemFilter.HasPredicateOn]
  | pass _ _ ih => exact ih
  | add _ hfinds ih =>
    rw [Criterion.isIn_adding, hfinds.isIn_iff, List.mem_append, List.mem_singleton, ih, eq_comm]

/-- Nothing selects items just if no kind but a date has been recognised. -/
theorem isEmpty_iff (h : Found r text now c) :
    c.filter.isEmpty = true ↔ ∀ kind ∈ c.matched, kind = .date := by
  have hparts : c.filter.isEmpty = true ↔
      c.filter.ids = [] ∧ c.filter.predicates = [] ∧ c.filter.freeTextTerms = [] := by
    simp [ItemFilter.isEmpty, and_assoc]
  rw [hparts]
  constructor
  · rintro ⟨hids, hpredicates, hterms⟩ kind hkind
    have hin := h.mem_matched_iff.mp hkind
    cases kind with
    | ids => exact absurd hids hin
    | date => rfl
    | text => exact absurd hterms hin
    | type | state | priority | tag | area | assignee =>
      obtain ⟨p, hp, -⟩ := hin
      rw [hpredicates] at hp
      exact absurd hp List.not_mem_nil
  · intro hdate
    have hnone : ∀ kind : Criterion, kind ≠ .date → ¬kind.IsIn c.filter := fun kind hne hin =>
      hne (hdate kind (h.mem_matched_iff.mpr hin))
    refine ⟨not_not.mp (hnone .ids (by decide)), ?_, not_not.mp (hnone .text (by decide))⟩
    rw [List.eq_nil_iff_forall_not_mem]
    intro p hp
    obtain ⟨kind, -, -, -, hfield⟩ := h.predicates_origin hp
    refine hnone kind ?_ ((Criterion.isIn_of_field hfield _).mpr ⟨p, hp, rfl⟩)
    rintro rfl
    cases hfield

/-- The kinds come in the order in which they are looked for. -/
theorem sorted (h : Found r text now c) :
    c.matched.Pairwise (fun a b => a.rank ≤ b.rank) ∧ ∀ kind ∈ c.matched, kind.rank ≤ now.rank := by
  induction h with
  | start => exact ⟨.nil, nofun⟩
  | pass _ hlater ih => exact ⟨ih.1, fun kind hkind => Nat.le_trans (ih.2 kind hkind) hlater⟩
  | add _ _ ih =>
    refine ⟨List.pairwise_append.mpr ⟨ih.1, List.pairwise_singleton _ _, fun a ha b hb => ?_⟩, ?_⟩
    · rw [List.mem_singleton.mp hb]
      exact ih.2 a ha
    · exact List.forall_mem_append.mpr ⟨ih.2, List.forall_mem_singleton.mpr (Nat.le_refl _)⟩

end Found

/-! ## Lists without repeats -/

theorem mem_withoutRepeats {α : Type} [BEq α] [LawfulBEq α] {items : List α} {a : α} :
    a ∈ withoutRepeats items ↔ a ∈ items := by
  induction items using withoutRepeats.induct with
  | case1 b c rest heq ih =>
    rw [withoutRepeats, if_pos heq, ih]
    obtain rfl := beq_iff_eq.mp heq
    simp
  | case2 b c rest hne ih =>
    rw [withoutRepeats, if_neg hne, List.mem_cons, ih, ← List.mem_cons]
  | case3 short hshort =>
    rw [withoutRepeats.eq_def]
    split
    · exact absurd rfl (hshort _ _ _)
    · rfl

/-- In a sorted list equal items stand together, so that none is left twice. -/
theorem nodup_withoutRepeats {α : Type} [DecidableEq α] {rank : α → Nat}
    (hrank : Function.Injective rank) {items : List α}
    (h : items.Pairwise fun a b => rank a ≤ rank b) : (withoutRepeats items).Nodup := by
  induction items using withoutRepeats.induct with
  | case1 b c rest heq ih =>
    rw [withoutRepeats, if_pos heq]
    exact ih h.of_cons
  | case2 b c rest hne ih =>
    rw [withoutRepeats, if_neg hne, List.nodup_cons]
    refine ⟨fun hmem => ?_, ih h.of_cons⟩
    obtain ⟨hb, hrest⟩ := List.pairwise_cons.mp h
    have hc := (List.pairwise_cons.mp hrest).1
    have hbc : rank b ≤ rank c := hb c List.mem_cons_self
    have hle : rank c ≤ rank b := by
      rcases List.mem_cons.mp (mem_withoutRepeats.mp hmem) with rfl | hmem
      · exact Nat.le_refl _
      · exact hc b hmem
    exact hne (beq_iff_eq.mpr (hrank (Nat.le_antisymm hbc hle)))
  | case3 short hshort =>
    cases short with
    | nil => exact List.nodup_nil
    | cons a rest =>
      cases rest with
      | nil => exact List.pairwise_singleton _ a
      | cons b rest => exact absurd rfl (hshort a b rest)

/-! ## The criteria of an utterance -/

theorem stateWords_ne_nil : ∀ entry ∈ stateWords, entry.2.1 ≠ [] := by decide

theorem finds_state {entry : String × List String × Bool} (h : entry ∈ stateWords) :
    ∃ part, Finds r text .state part ∧ ∀ f : ItemFilter,
      (if entry.2.2 then f.withStatesIn entry.2.1 else f.withStatesNotIn entry.2.1)
        = f.adding part := by
  have hne := stateWords_ne_nil entry h
  obtain ⟨word, states, asked⟩ := entry
  cases asked with
  | true => exact ⟨_, .stateIn h, fun f => f.withAny_eq _ _ _ hne⟩
  | false => exact ⟨_, .stateNotIn h, fun f => f.withAny_eq _ _ _ hne⟩

/-- A person who is named comes before the user. -/
theorem finds_assignee {who : String}
    (h : ((Patterns.assignedToName.find? text).bind keptPhrase).orElse
      (fun _ => if Patterns.assignedToMe.occursIn text then some "me" else none) = some who) :
    ∃ part, Finds r text .assignee part ∧
      ∀ f : ItemFilter, f.withAssignee who = f.adding part := by
  cases hname : (Patterns.assignedToName.find? text).bind keptPhrase with
  | some name =>
    rw [hname] at h
    cases h
    obtain ⟨place, hplace, hkept⟩ := Option.bind_eq_some_iff.mp hname
    exact ⟨_, .person hplace hkept, fun f => f.withSingle_eq _ _ _⟩
  | none =>
    rw [hname] at h
    obtain ⟨hoccurs, hme⟩ := Option.ite_none_right_eq_some.mp h
    cases hme
    exact ⟨_, .me hname hoccurs, fun f => f.withSingle_eq _ _ _⟩

/-- The criteria of an utterance are found in it kind by kind, in the order in which they are looked
for. -/
theorem ofUtterance_found (r : Registry) (utterance : String) : ∃ c extras,
    Found r utterance.toList .text c ∧
    ofUtterance r utterance = ⟨{ c.filter with extras := extras }, withoutRepeats c.matched⟩ := by
  refine ⟨_, _, ?_, rfl⟩
  refine Found.start
    |>.addMaybe (by decide) (fun numbers hnumbers => ?ids)
    |>.addMaybe (by decide) (fun names hnames => ?type)
    |>.addMaybe (by decide) (fun entry hentry => ?state)
    |>.addMaybe (by decide) (fun bounds hbounds => ?priority)
    |>.addMaybe (by decide) (fun w hw => ?date)
    |>.addAll (by decide) (fun tag htag => ?tags)
    |>.addMaybe (by decide) (fun path hpath => ?area)
    |>.addMaybe (by decide) (fun who hwho => ?assignee)
    |>.addAll (by decide) (fun phrase hphrase => ?phrases)
    |>.addAll (by decide) (fun term hterm => ?mentioned)
  case ids =>
    obtain ⟨hne, hnumbers⟩ := Option.ite_none_left_eq_some.mp hnumbers
    cases hnumbers
    exact ⟨_, .ids (by simpa using hne), fun f => f.withIds_eq _⟩
  case type =>
    obtain ⟨hne, hnames⟩ := Option.ite_none_left_eq_some.mp hnames
    cases hnames
    have hne : types r [] (wordsOf utterance.toList) ≠ [] := by simpa using hne
    exact ⟨_, .type hne, fun f => f.withAny_eq _ _ _ hne⟩
  case state => exact finds_state (List.mem_of_find?_eq_some hentry)
  case priority => exact ⟨_, .priority hbounds, fun f => f.withPriorityRange_eq _ _⟩
  case date => exact ⟨_, .date hw, fun f => f.withDateWindow_eq w⟩
  case tags =>
    obtain ⟨place, hplace, hkept⟩ := List.mem_filterMap.mp htag
    exact ⟨_, .tag hplace hkept, fun f => f.withSingle_eq _ _ _⟩
  case area =>
    obtain ⟨place, hplace, hkept⟩ := Option.bind_eq_some_iff.mp hpath
    exact ⟨_, .area hplace hkept, fun f => f.withSingle_eq _ _ _⟩
  case assignee => exact finds_assignee hwho
  case phrases =>
    obtain ⟨place, hplace, hkept⟩ := List.mem_filterMap.mp (List.mem_filter.mp hphrase).1
    exact ⟨_, .phrase hplace hkept, fun f => f.withFreeText_eq _⟩
  case mentioned =>
    obtain ⟨place, hplace, rfl⟩ := List.mem_map.mp (List.mem_filter.mp hterm).1
    exact ⟨_, .mention hplace, fun f => f.withFreeText_eq _⟩

end Criteria
end WorkQuery
