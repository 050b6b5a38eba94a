import WorkQuery.Proofs.Query.Row

/-!
# WorkQuery.Proofs.Query.FilterMeaning

The query of a filter asks for what the filter asks for: its body, read back from the query text,
is true exactly when every part of the filter is (`Compiler.Meets`), and it is scoped to the project
of the context exactly when no predicate pins the project.
-/

namespace WorkQuery

variable {v : WrittenComparison → Prop}

/-! ## Registries -/

/-- References of the registry have no blanks around them. -/
def Registry.IsTrimmed (r : Registry) : Prop :=
  ∀ f ∈ (r.byReference ++ r.byKey).map Prod.snd, Text.trim f.reference = f.reference

theorem Registry.IsTrimmed.resolve? {r : Registry} (hr : r.IsTrimmed) {name : String} {f : FieldDef}
    (h : r.resolve? name = some f) : Text.trim f.reference = f.reference :=
  hr f (Registry.mem_of_resolve? h)

/-! ## Parts of a filter -/

theorem comparisons_hold (cmps : List Comparison) :
    (∀ c ∈ cmps.map Condition.comparison, c.Holds v) ↔ ∀ cmp ∈ cmps, v cmp.written := by
  simp

theorem idConditions_hold (ids : List Nat) :
    (∀ c ∈ idConditions ids, c.Holds v) ↔ (ids ≠ [] →
      v ⟨Reference.id, .inList, ids.eraseDups.map fun id => .number false (Numeral.natText id)⟩) := by
  have hown : FieldDef.id ∈ ownFields := by simp [ownFields]
  cases ids with
  | nil => simp [idConditions]
  | cons id rest =>
    have hone : idConditions (id :: rest) = [.comparison
        ⟨FieldDef.id, .inList, (id :: rest).eraseDups.map fun (id : Nat) => .whole id⟩] := rfl
    rw [hone, List.forall_mem_singleton, Condition.holds_comparison, Comparison.written_own hown,
      List.map_map]
    exact ⟨fun h _ => h, fun h => h (by simp)⟩

theorem Condition.chain_or_holds : ∀ (rest : List Condition) (first : Condition),
    (chain .or first rest).Holds v ↔ ∃ c ∈ first :: rest, c.Holds v := by
  intro rest
  induction rest with
  | nil => intro first; simp [chain]
  | cons c rest ih =>
    intro first
    have hjoin : chain .or first (c :: rest) = chain .or (join first .or c) rest := rfl
    rw [hjoin, ih]
    simp [or_assoc]

theorem searches_holds (term : String) :
    (searches term).Holds v ↔
      v ⟨Reference.title, .contains, [.literal (Quote.escape (Text.trim term))]⟩ ∨
      v ⟨Reference.description, .containsWords, [.literal (Quote.escape (Text.trim term))]⟩ := by
  have htitle : FieldDef.title ∈ ownFields := by simp [ownFields]
  have hdescription : FieldDef.description ∈ ownFields := by simp [ownFields]
  simp only [searches, Condition.holds_group, Condition.holds_or, Condition.holds_comparison,
    Comparison.written_own htitle, Comparison.written_own hdescription]
  rfl

theorem anyOf_hold (cs : List Condition) :
    (∀ c ∈ anyOf cs, c.Holds v) ↔ (cs ≠ [] → ∃ c ∈ cs, c.Holds v) := by
  rcases cs with _ | ⟨first, _ | ⟨second, rest⟩⟩
  · simp [anyOf]
  · simp [anyOf]
  · simp [anyOf, Condition.chain_or_holds]

theorem searchConditions_hold (terms : List String) :
    (∀ c ∈ searchConditions terms, c.Holds v) ↔
      (terms ≠ [] → ∃ t ∈ terms, (searches t).Holds v) := by
  rw [searchConditions, anyOf_hold]
  simp

/-! ## Filters -/

namespace Compiler

variable {c : Compiler} {ctx : QueryContext}

/-- The comparison of a predicate, as it is written: on the field that the name stands for, with
the values that the literals stand for. -/
def WritesPredicate (c : Compiler) (ctx : QueryContext) (p : Predicate) (w : WrittenComparison) :
    Prop :=
  ∃ field vs, c.registry.resolve? p.field = some field ∧
    List.Forall₂ (fun l v => l.render field ctx = .ok v) p.value.literals vs ∧
    w = ⟨field.reference, p.operator, vs.map Value.written⟩

/-- What a filter asks for, told by the comparisons that hold. -/
structure Meets (c : Compiler) (ctx : QueryContext) (f : ItemFilter)
    (comparisons : List WrittenComparison) (v : WrittenComparison → Prop) : Prop where
  /-- Every item number once, where it first occurs. -/
  ids : f.ids ≠ [] →
    v ⟨Reference.id, .inList, f.ids.eraseDups.map fun id => .number false (Numeral.natText id)⟩
  predicates : ∀ cmp ∈ comparisons, v cmp
  window : ∀ w ∈ f.dateWindow, ∀ field, c.registry.resolve? w.field = some field →
    ∀ b ∈ w.bounds ctx.today, v ⟨field.reference, b.1, [b.2.written]⟩
  terms : f.freeTextTerms ≠ [] → ∃ t ∈ f.freeTextTerms,
    v ⟨Reference.title, .contains, [.literal (Quote.escape (Text.trim t))]⟩ ∨
    v ⟨Reference.description, .containsWords, [.literal (Quote.escape (Text.trim t))]⟩
  scope : (∀ cmp ∈ comparisons, cmp.pinsProject = false) →
    v ⟨Reference.teamProject, .eq, [ctx.projectOperand]⟩

theorem Asks.written {p : Predicate} {cmp : Comparison} (hr : c.registry.IsTrimmed)
    (h : Asks c ctx p cmp) : c.WritesPredicate ctx p cmp.written := by
  refine ⟨cmp.field, cmp.values, h.field, h.values, ?_⟩
  rw [Comparison.written, hr.resolve? h.field, h.operator]

theorem Asks.pinsProject {p : Predicate} {cmp : Comparison} (hr : c.registry.IsTrimmed)
    (h : Asks c ctx p cmp) : cmp.written.pinsProject = cmp.pinsProject := by
  simp only [Comparison.written, WrittenComparison.pinsProject, Comparison.pinsProject,
    FieldDef.isTeamProject, hr.resolve? h.field]

theorem Compiles.holds {f : ItemFilter} {q : Query} {comparisons windows : List Comparison}
    (hr : c.registry.IsTrimmed) (h : Compiles c ctx f q comparisons windows) :
    (∀ cond ∈ q.conditions, cond.Holds v) ↔
      c.Meets ctx f (comparisons.map Comparison.written) v := by
  have hpins : comparisons.any Comparison.pinsProject = false ↔
      ∀ cmp ∈ comparisons.map Comparison.written, cmp.pinsProject = false := by
    rw [List.any_eq_false, List.forall_mem_map]
    refine forall₂_congr fun cmp hcmp => ?_
    obtain ⟨p, _, hp⟩ := exists_left_of_mem h.predicates hcmp
    rw [hp.pinsProject hr, Bool.not_eq_true]
  have hscope : (∀ cond ∈ ctx.scopeUnless (comparisons.any Comparison.pinsProject), cond.Holds v) ↔
      ((∀ cmp ∈ comparisons.map Comparison.written, cmp.pinsProject = false) →
        v ⟨Reference.teamProject, .eq, [ctx.projectOperand]⟩) := by
    rw [← hpins]
    cases comparisons.any Comparison.pinsProject with
    | true => simp [QueryContext.scopeUnless]
    | false => simp [QueryContext.scopeUnless, scope_holds]
  have hcomparisons : (∀ cond ∈ comparisons.map Condition.comparison, cond.Holds v) ↔
      ∀ cmp ∈ comparisons.map Comparison.written, v cmp := by
    rw [comparisons_hold, List.forall_mem_map]
  have hwindows : (∀ cond ∈ windows.map Condition.comparison, cond.Holds v) ↔
      ∀ w ∈ f.dateWindow, ∀ field, c.registry.resolve? w.field = some field →
        ∀ b ∈ w.bounds ctx.today, v ⟨field.reference, b.1, [b.2.written]⟩ := by
    rcases h.window with ⟨hw, rfl⟩ | ⟨w, field, hw, hbounds⟩
    · simp [hw]
    · have hresolves := hbounds.resolves
      have htrim := hr.resolve? hresolves
      rw [comparisons_hold, hbounds.comparisons, List.forall_mem_map, hw]
      simp [Comparison.written, htrim, hresolves]
  rw [h.conditions]
  simp only [List.forall_mem_append, hscope, hcomparisons, hwindows, idConditions_hold,
    searchConditions_hold, searches_holds]
  constructor
  · rintro ⟨hs, ⟨⟨hi, hp⟩, hw⟩, ht⟩
    exact ⟨hi, hp, hw, ht, hs⟩
  · rintro ⟨hi, hp, hw, ht, hs⟩
    exact ⟨hs, ⟨⟨hi, hp⟩, hw⟩, ht⟩

/-- Literals never stand for fields. -/
theorem render_operand {α : Type} {row : Row α} {store : Store α} {field : FieldDef} {l : Literal}
    {u : Value} (h : l.render field ctx = .ok u) :
    row.operand store u.written = store.constant u.written := by
  cases l with
  | text t =>
    rcases render_text h with rfl | hturned
    · rfl
    · cases u with
      | whole n => cases n <;> rfl
      | numeral s => cases hturned
      | field reference => cases hturned
      | _ => rfl
  | integer n =>
    rcases render_integer h with rfl | rfl
    · cases n <;> rfl
    · rfl

/-- Of a filter that compiles, the body of the query means what the filter asks for, and every row
that satisfies it lies in the project of the context or in one that a pinning predicate names. -/
theorem compile_meaning {f : ItemFilter} {q : Query} (hr : c.registry.IsTrimmed)
    (h : c.compile ctx f = .ok q) :
    ∃ comparisons, List.Forall₂ (c.WritesPredicate ctx) f.predicates comparisons ∧
      Token.ofText q.body = .ok q.bodyTokens ∧
      (∀ v P, Reads v .disjunction q.bodyTokens P ↔ (P ↔ c.Meets ctx f comparisons v)) ∧
      ∀ (α : Type) (store : Store α) (row : Row α) (P : Prop),
        Reads (row.Satisfies store) .disjunction q.bodyTokens P → P →
        row.project = store.constant ctx.projectOperand ∨
          ∃ cmp ∈ comparisons, cmp.pinsProject = true ∧
            ∃ w ∈ cmp.operands, row.project = store.constant w := by
  obtain ⟨comparisons, windows, hcompiles⟩ := compile_ok h
  have hwell := hcompiles.wellFormed
  have hmeaning : ∀ v P, Reads v .disjunction q.bodyTokens P ↔
      (P ↔ c.Meets ctx f (comparisons.map Comparison.written) v) := by
    intro v P
    rw [hwell.reads, hcompiles.holds hr]
  refine ⟨comparisons.map Comparison.written, ?_, hwell.ofText_body, hmeaning, ?_⟩
  · rw [List.forall₂_map_right_iff]
    exact hcompiles.predicates.imp fun p cmp hp => hp.written hr
  · intro α store row P hP htrue
    have hmeets := ((hmeaning _ P).mp hP).mp htrue
    -- the scope is there exactly if no predicate pins the project, so one of the two confines the row
    by_cases hpins : ∃ cmp ∈ comparisons, cmp.written.pinsProject = true
    · obtain ⟨cmp, hcmp, hpin⟩ := hpins
      obtain ⟨w, hw, hproject⟩ := Row.confined_of_pins hpin
        (hmeets.predicates _ (List.mem_map_of_mem hcmp))
      obtain ⟨u, hu, rfl⟩ := List.mem_map.mp hw
      obtain ⟨p, _, hp⟩ := exists_left_of_mem hcompiles.predicates hcmp
      obtain ⟨l, _, hl⟩ := exists_left_of_mem hp.values hu
      rw [render_operand hl] at hproject
      exact .inr ⟨cmp.written, List.mem_map_of_mem hcmp, hpin, _, hw, hproject⟩
    · have hscope := hmeets.scope (by simpa using hpins)
      exact .inl (Row.project_of_scope ((scope_holds ctx).mpr hscope))

def stateOnly : Compiler := ⟨⟨[], [("state", ⟨"System.State", .string⟩)], [], []⟩, {}⟩

def activeCrashes : ItemFilter :=
  { ids := [3, 1, 3], predicates := [⟨"State", .eq, .single (.text "Active")⟩],
    freeTextTerms := [" crash ", "can't start"] }

theorem compile_meaning_activeCrashes :
    stateOnly.registry.IsTrimmed ∧
    ∃ q, stateOnly.compile ⟨some "Web", Date.epoch⟩ activeCrashes = .ok q ∧
      ∃ comparisons, ∀ v P, Reads v .disjunction q.bodyTokens P ↔
        (P ↔ stateOnly.Meets ⟨some "Web", Date.epoch⟩ activeCrashes comparisons v) := by
  have hr : stateOnly.registry.IsTrimmed := by
    intro f hf
    obtain rfl := List.mem_singleton.mp hf
    decide +kernel
  obtain ⟨comparisons, _, _, hmeaning, _⟩ :=
    @compile_meaning stateOnly ⟨some "Web", Date.epoch⟩ activeCrashes _ hr rfl
  exact ⟨hr, _, rfl, comparisons, hmeaning⟩

end Compiler
end WorkQuery
