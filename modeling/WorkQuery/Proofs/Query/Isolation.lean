import WorkQuery.Proofs.Query.Row
import WorkQuery.Proofs.Query.Standard

/-!
# WorkQuery.Proofs.Query.Isolation

Whether the query of a condition written by hand keeps to the projects that it may name. The scope
of the context is left out where a comparison outside all groups and negations pins the project.

* `compileText_isolates`: the query keeps to these projects if its scope is added, or if one of the
  comparisons that pin the project has nothing but names of projects as operands.
* `Condition.pinsConfine_iff`: otherwise these comparisons confine nothing. A field may stand as an
  operand, and then the project is compared with what the item itself says.
-/

namespace WorkQuery

variable {v : WrittenComparison → Prop}

def Condition.topComparisons : Condition → List Comparison
  | .comparison c => [c]
  | .group _ => []
  | .negation _ => []
  | .join left _ right => left.topComparisons ++ right.topComparisons

namespace Condition

theorem topComparisons_subset (c : Condition) : c.topComparisons ⊆ c.comparisons := by
  induction c with
  | comparison c => exact List.Subset.refl _
  | group inner _ => exact List.nil_subset _
  | negation inner _ => exact List.nil_subset _
  | join left k right ihl ihr =>
    intro cmp hcmp
    rcases List.mem_append.mp hcmp with hcmp | hcmp
    · exact List.mem_append_left _ (ihl hcmp)
    · exact List.mem_append_right _ (ihr hcmp)

theorem pinsProject_iff {c : Condition} :
    c.pinsProject = true ↔ ∃ cmp ∈ c.topComparisons, cmp.pinsProject = true := by
  induction c with
  | comparison c => simp [pinsProject, topComparisons]
  | group inner _ => simp [pinsProject, topComparisons]
  | negation inner _ => simp [pinsProject, topComparisons]
  | join left k right ihl ihr =>
    simp only [pinsProject, topComparisons, Bool.or_eq_true, ihl, ihr, List.mem_append, or_and_right,
      exists_or]

theorem isScoped_iff {c : Condition} : c.isScoped = true ↔
    c.hasTopLevelOr = false ∧ ∃ cmp ∈ c.topComparisons, cmp.pinsProject = true := by
  simp only [isScoped, Bool.and_eq_true, Bool.not_eq_true', pinsProject_iff]
  exact And.comm

/-- Without OR outside groups, what stands outside groups and negations holds with the whole. -/
theorem topComparisons_hold {c : Condition} (h : c.hasTopLevelOr = false) (hc : c.Holds v) :
    ∀ cmp ∈ c.topComparisons, v cmp.written := by
  induction c with
  | comparison c =>
    intro cmp hcmp
    obtain rfl := List.mem_singleton.mp hcmp
    exact (holds_comparison _).mp hc
  | group inner _ => intro cmp hcmp; cases hcmp
  | negation inner _ => intro cmp hcmp; cases hcmp
  | join left k right ihl ihr =>
    cases k with
    | or => simp [hasTopLevelOr] at h
    | and =>
      simp only [hasTopLevelOr, Bool.or_eq_false_iff] at h
      obtain ⟨hleft, hright⟩ := (holds_and h.1.2 right).mp hc
      intro cmp hcmp
      rcases List.mem_append.mp hcmp with hcmp | hcmp
      · exact ihl h.1.2 hleft cmp hcmp
      · exact ihr h.2 hright cmp hcmp

/-- A comparison outside all groups and negations pins the project to names of projects. -/
def PinsByName (c : Condition) : Prop :=
  ∃ cmp ∈ c.topComparisons, cmp.pinsProject = true ∧
    ∀ w ∈ cmp.written.operands, w.namesProject = true

/-- The row lies in the project of the context, or in one that a comparison of the condition with =
or IN names. -/
def Confines {α : Type} (c : Condition) (ctx : QueryContext) (store : Store α) (row : Row α) : Prop :=
  row.project = store.constant ctx.projectOperand ∨
    ∃ cmp ∈ c.comparisons, cmp.written.pinsProject = true ∧
      ∃ w ∈ cmp.written.operands, w.namesProject = true ∧ row.project = store.constant w

/-- Every row that satisfies what stands in the tokens is confined. -/
def Isolates (c : Condition) (ctx : QueryContext) (body : List Token) : Prop :=
  ∀ (α : Type) (store : Store α) (row : Row α) (P : Prop),
    Reads (row.Satisfies store) .disjunction body P → P → c.Confines ctx store row

/-- Every row that satisfies the comparisons which the scope is left out for is confined. -/
def PinsConfine (c : Condition) (ctx : QueryContext) : Prop :=
  ∀ (α : Type) (store : Store α) (row : Row α),
    (∀ cmp ∈ c.topComparisons, cmp.pinsProject = true → row.Satisfies store cmp.written) →
    c.Confines ctx store row

theorem confines_of_byName {α : Type} {c : Condition} {ctx : QueryContext} {store : Store α}
    {row : Row α} {cmp : Comparison} (hcmp : cmp ∈ c.topComparisons) (hpins : cmp.pinsProject = true)
    (hnames : ∀ w ∈ cmp.written.operands, w.namesProject = true)
    (h : row.Satisfies store cmp.written) : c.Confines ctx store row := by
  have hwritten := Comparison.pinsProject_written hpins
  obtain ⟨w, hw, hproject⟩ := Row.confined_of_pins hwritten h
  rw [Row.operand_of_namesProject (hnames w hw)] at hproject
  exact .inr ⟨cmp, c.topComparisons_subset hcmp, hwritten, w, hw, hnames w hw, hproject⟩

end Condition

def Row.uniform {α : Type} (a : α) : Row α := ⟨fun _ => a, fun _ _ _ => rfl⟩

/-- A store in which the operands that name a project have one value and all others the other. -/
def Store.apart : Store Bool := ⟨fun w => !w.namesProject, fun _ _ _ => True⟩

theorem projectOperand_namesProject (ctx : QueryContext) :
    ctx.projectOperand.namesProject = true := by
  unfold QueryContext.projectOperand
  split <;> rfl

/-- A row that differs from everything named is not confined. -/
theorem not_confines_uniform (c : Condition) (ctx : QueryContext) :
    ¬c.Confines ctx Store.apart (Row.uniform true) := by
  rintro (h | ⟨cmp, _, _, w, _, hname, h⟩)
  · simp [Row.project, Row.uniform, Store.apart, projectOperand_namesProject] at h
  · simp [Row.project, Row.uniform, Store.apart, hname] at h

/-- A comparison that pins the project is met by such a row where an operand names no project. -/
theorem satisfies_uniform {c : WrittenComparison} (hpins : c.pinsProject = true)
    (hother : ∃ w ∈ c.operands, w.namesProject = false) :
    (Row.uniform true).Satisfies Store.apart c := by
  obtain ⟨w, hw, hname⟩ := hother
  simp only [WrittenComparison.pinsProject, Bool.and_eq_true] at hpins
  rw [Row.Satisfies, if_pos hpins.1]
  refine ⟨w, hw, ?_⟩
  cases w with
  | field name => rfl
  | _ => simp [Row.uniform, Row.operand, Store.apart, hname]

/-- The comparisons that pin the project confine rows exactly if one of them has nothing but names
of projects as operands. -/
theorem Condition.pinsConfine_iff {c : Condition} {ctx : QueryContext} :
    c.PinsConfine ctx ↔ c.PinsByName := by
  constructor
  · intro h
    by_contra hnone
    -- each of these comparisons has an operand that names no project, and the uniform row meets it
    refine not_confines_uniform c ctx (h Bool Store.apart (Row.uniform true) fun cmp hcmp hpins => ?_)
    apply satisfies_uniform (Comparison.pinsProject_written hpins)
    by_contra hall
    refine hnone ⟨cmp, hcmp, hpins, fun w hw => ?_⟩
    by_contra hname
    exact hall ⟨w, hw, by simpa using hname⟩
  · rintro ⟨cmp, hcmp, hpins, hnames⟩ α store row h
    exact confines_of_byName hcmp hpins hnames (h cmp hcmp hpins)

namespace Compiler

variable {c : Compiler} {ctx : QueryContext}

/-- The query of a condition written by hand keeps to the project of the context and to those that
the condition names if the scope of the context is added to it, or if a comparison that the scope is
left out for has nothing but names of projects as operands. The scope is left out exactly where such
comparisons stand in a conjunction, and they confine rows in no other case. -/
theorem compileText_isolates {text : String} {q : Query} (h : c.compileText ctx text = .ok q) :
    ∃ clause, Condition.ofText c.registry ctx text = .ok clause ∧
      (clause.isScoped = false ∨ clause.PinsByName → clause.Isolates ctx q.bodyTokens) ∧
      q.conditions = ctx.scopeUnless clause.isScoped ++ [.group clause] ∧
      (clause.isScoped = true ↔ clause.hasTopLevelOr = false ∧
        ∃ cmp ∈ clause.topComparisons, cmp.pinsProject = true) ∧
      (clause.PinsConfine ctx ↔ clause.PinsByName) := by
  have hwell := compileText_wellFormed h
  obtain ⟨tokens, clause, htokens, hwrites, hconditions, _⟩ := compileText_ok h
  refine ⟨clause, Condition.ofText_ok_iff.mpr ⟨tokens, htokens, hwrites⟩, ?_, hconditions,
    Condition.isScoped_iff, Condition.pinsConfine_iff⟩
  intro hcase α store row P hP htrue
  have hall := (hwell.reads.mp hP).mp htrue
  rw [hconditions] at hall
  cases hscoped : clause.isScoped with
  | false =>
    rw [hscoped] at hall
    exact .inl (Row.project_of_scope (hall ctx.scope (by simp [QueryContext.scopeUnless])))
  | true =>
    rcases hcase with hno | ⟨cmp, hcmp, hpins, hnames⟩
    · rw [hno] at hscoped
      cases hscoped
    · have hclause : clause.Holds (row.Satisfies store) :=
        (Condition.holds_group clause).mp (hall (.group clause) (by simp))
      have hcmps := Condition.topComparisons_hold (Condition.isScoped_iff.mp hscoped).1 hclause
      exact Condition.confines_of_byName hcmp hpins hnames (hcmps cmp hcmp)

/-- A scoped condition that the uniform row satisfies isolates nothing. -/
theorem not_isolates {text : String} {q : Query} {clause : Condition}
    (h : c.compileText ctx text = .ok q) (hclause : Condition.ofText c.registry ctx text = .ok clause)
    (hscoped : clause.isScoped = true)
    (hholds : clause.Holds ((Row.uniform true).Satisfies Store.apart)) :
    ¬clause.Isolates ctx q.bodyTokens := by
  intro hisolates
  obtain ⟨tokens, clause', htokens, hwrites, hconditions, _⟩ := compileText_ok h
  have hsame := Condition.ofText_ok_iff.mpr ⟨tokens, htokens, hwrites⟩
  rw [hclause] at hsame
  cases hsame
  have hread := (compileText_wellFormed h).reads.mpr (Iff.refl
    (∀ cond ∈ q.conditions, cond.Holds ((Row.uniform true).Satisfies Store.apart)))
  refine not_confines_uniform clause ctx (hisolates Bool Store.apart (Row.uniform true) _ hread ?_)
  rw [hconditions, hscoped]
  simpa [QueryContext.scopeUnless] using hholds

/-! ## Two conditions on the project -/

theorem standard_resolves :
    Registry.standard.resolve? "System.TeamProject" = some FieldDef.teamProject ∧
      Registry.standard.resolve? "System.Title" = some FieldDef.title := by
  have hproject : FieldDef.teamProject ∈ ownFields := by simp [ownFields]
  have htitle : FieldDef.title ∈ ownFields := by simp [ownFields]
  exact ⟨(Registry.standard_closed.own hproject).resolves,
    (Registry.standard_closed.own htitle).resolves⟩

theorem ownField_checks : ∀ f ∈ ownFields, Quote.checkReference f.reference = .ok f.reference :=
  fun _ hf => (Registry.standard_closed.own hf).checks

/-- The condition that the project is one value. -/
def projectIs (value : Value) : Condition := .comparison ⟨FieldDef.teamProject, .eq, [value]⟩

theorem projectIs_scoped (value : Value) : (projectIs value).isScoped = true := by
  have hproject : FieldDef.teamProject.isTeamProject = true := by decide
  simp [projectIs, Condition.isScoped, Condition.pinsProject, Condition.hasTopLevelOr,
    Comparison.pinsProject, Operator.pinsValue, hproject]

theorem compileText_projectIs {operand : String} {w : WrittenValue} {value : Value}
    (hlexes : Lexes operand.toList w.tokens)
    (hadmits : w.Admits Registry.standard ctx FieldDef.teamProject .eq value) :
    Condition.ofText Registry.standard ctx ("[System.TeamProject] = " ++ operand)
        = .ok (projectIs value) ∧
      standard.compileText ctx ("[System.TeamProject] = " ++ operand)
        = .ok (Query.make [.group (projectIs value)] [OrderKey.default]
          (standard.caps.effective none) {}) := by
  have hof : Condition.ofText Registry.standard ctx ("[System.TeamProject] = " ++ operand)
      = .ok (projectIs value) := by
    have hfield := @lexes_field "System.TeamProject".toList (by decide)
    have htext : Lexes ("[System.TeamProject] = " ++ operand).toList
        (.field "System.TeamProject" :: (Operator.eq.tokens ++ w.tokens)) := by
      have := hfield.space ((Operator.lexes .eq).space hlexes)
      rw [String.toList_append]
      exact this
    have htakes : Operator.eq.Takes [w] := rfl
    have hcomparison := WritesComparison.mk standard_resolves.1
      (ownField_checks FieldDef.teamProject (by simp [ownFields])) (Operator.spells .eq) rfl htakes
      (.cons hadmits .nil)
    have hoperands : Operator.eq.operandTokens [w] = w.tokens := List.flatMap_singleton ..
    rw [hoperands] at hcomparison
    exact Condition.ofText_ok_iff.mpr ⟨_, htext.ofText, .term (.factor (.comparison hcomparison))⟩
  refine ⟨hof, ?_⟩
  have hregistry : standard.registry = Registry.standard := rfl
  rw [compileText, hregistry, hof, bind_ok_iff]
  exact ⟨_, rfl, by rw [projectIs_scoped]; rfl⟩

theorem compileText_isolates_web :
    ∃ clause q, standard.compileText QueryContext.default "[System.TeamProject] = 'Web'" = .ok q ∧
      Condition.ofText Registry.standard QueryContext.default "[System.TeamProject] = 'Web'"
        = .ok clause ∧
      clause.Isolates QueryContext.default q.bodyTokens := by
  have hadmits : WrittenValue.Admits Registry.standard QueryContext.default FieldDef.teamProject .eq
      (.literal "Web") (.text "Web") := .literal rfl nofun rfl
  obtain ⟨hof, hquery⟩ := compileText_projectIs (lexes_literal "Web") hadmits
  obtain ⟨clause, hclause, hisolates, _⟩ := compileText_isolates hquery
  cases hof.symm.trans hclause
  refine ⟨_, _, hquery, hof, hisolates (.inr ?_)⟩
  refine ⟨_, List.mem_singleton.mpr rfl, rfl, ?_⟩
  simp [Comparison.written, Value.written, WrittenValue.namesProject]

/-- A project that is compared with a title is taken for pinned, and so every item is found whose
title is the name of its project, in all projects. -/
theorem compileText_projectIsTitle :
    ∃ clause q,
      standard.compileText QueryContext.default "[System.TeamProject] = [System.Title]" = .ok q ∧
      Condition.ofText Registry.standard QueryContext.default
        "[System.TeamProject] = [System.Title]" = .ok clause ∧
      ¬clause.Isolates QueryContext.default q.bodyTokens := by
  have hadmits : WrittenValue.Admits Registry.standard QueryContext.default FieldDef.teamProject .eq
      (.field "System.Title") (.field Reference.title) :=
    .field standard_resolves.2 (ownField_checks FieldDef.title (by simp [ownFields]))
  have hlexes : Lexes "[System.Title]".toList (WrittenValue.field "System.Title").tokens :=
    @lexes_field "System.Title".toList (by decide)
  obtain ⟨hof, hquery⟩ := compileText_projectIs hlexes hadmits
  refine ⟨_, _, hquery, hof, not_isolates hquery hof (projectIs_scoped _) ?_⟩
  rw [projectIs, Condition.holds_comparison]
  apply satisfies_uniform (Comparison.pinsProject_written (by decide))
  exact ⟨.field (Text.trim Reference.title), by simp [Comparison.written, Value.written], rfl⟩

end Compiler
end WorkQuery
