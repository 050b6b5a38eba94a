import WorkQuery.Proofs.Query.Reread

/-!
# WorkQuery.Proofs.Query.FixedPoint

The body of a query is a text that is read as itself.

* `scope_isReread`, `idConditions_isReread`, `searchConditions_isReread`, `Asks.isReread`,
  `Bounds.isReread`: the conditions that a filter is compiled into, one kind after the other.
* `readTerm_long`, `Query.WellFormed.ofText_refused`: a macro with more digits than are read, and the
  body that it stands in.
* `Compiler.compileInput_fixedPoint`: the bodies of queries, for both shapes of input. The periods
  excepted are those that are so long that their macro has more digits than are read; none of them can
  be named in words.
-/

namespace WorkQuery

variable {r : Registry} {ctx : QueryContext}

/-! ## Conditions that the compiler makes by itself -/

theorem ownField_isReread (hr : r.IsClosed) {f : FieldDef} (hf : f ∈ ownFields) {op : Operator}
    {vs : List Value} (hc : Comparison.IsSpelled ⟨f, op, vs⟩)
    (haccepts : f.valueType.accepts op = true) (hvs : ∀ v ∈ vs, v.IsReread r ctx f op) :
    (Condition.comparison ⟨f, op, vs⟩).IsReread r ctx :=
  Condition.comparison_isReread hc (hr.own hf) haccepts hvs

theorem ownText_isReread (hr : r.IsClosed) {f : FieldDef} (hf : f ∈ ownFields) {op : Operator}
    {t : String} (hc : Comparison.IsSpelled ⟨f, op, [.text t]⟩)
    (haccepts : f.valueType.accepts op = true)
    (hsearch : op.isSearch = true → Text.isBlankText t = false)
    (hkept : (Literal.text t).render f ctx = .ok (.text t)) :
    (Condition.comparison ⟨f, op, [.text t]⟩).IsReread r ctx := by
  refine ownField_isReread hr hf hc haccepts ?_
  rw [List.forall_mem_singleton]
  exact (Value.text_again hsearch hkept).isReread

theorem scope_isReread (hr : r.IsClosed) (hproject : ∀ p ∈ ctx.project, isCurrentProject p = false) :
    ctx.scope.IsReread r ctx := by
  have hown : FieldDef.teamProject ∈ ownFields := by simp [ownFields]
  have hspelled := (scope_conjunct ctx).spelled
  cases hp : ctx.project with
  | some p =>
    simp only [QueryContext.scope, hp] at hspelled ⊢
    refine ownText_isReread hr hown (hspelled _ List.mem_cons_self) rfl
      (fun h => absurd h (by decide)) ?_
    simp [Literal.render, FieldDef.teamProject, hproject p hp]
  | none =>
    simp only [QueryContext.scope, hp] at hspelled ⊢
    refine ownField_isReread hr hown (hspelled _ List.mem_cons_self) rfl ?_
    rw [List.forall_mem_singleton]
    exact (Value.named_again (by simp [namedValues]) (by decide)).isReread

theorem idConditions_isReread (hr : r.IsClosed) (ids : List Nat) :
    ∀ c ∈ idConditions ids, c.IsReread r ctx := by
  intro c hc
  have hspelled := (idConditions_conjuncts ids c hc).spelled
  unfold idConditions at hc
  split at hc
  · cases hc
  · obtain rfl := List.mem_singleton.mp hc
    refine ownField_isReread hr (by simp [ownFields]) (hspelled _ List.mem_cons_self) rfl ?_
    intro v hv
    obtain ⟨id, _, rfl⟩ := List.mem_map.mp hv
    exact Value.whole_isReread _ rfl

theorem searches_isReread (hr : r.IsClosed) {term : String} (hterm : (Text.trim term).toList ≠ []) :
    (searches term).IsReread r ctx := by
  have hspelled := (searches_conjunct term).spelled
  have hblank := Text.isBlankText_trim hterm
  have htitle : (Literal.text (Text.trim term)).render FieldDef.title ctx
      = .ok (.text (Text.trim term)) := by
    have hproject : FieldDef.title.isTeamProject = false := by decide
    show Except.ok (if FieldDef.title.isTeamProject && _ then _ else _) = _
    rw [hproject]
    rfl
  have hall : ∀ c ∈ [Condition.comparison ⟨FieldDef.title, .contains, [.text (Text.trim term)]⟩,
      .comparison ⟨FieldDef.description, .containsWords, [.text (Text.trim term)]⟩],
      c.IsReread r ctx := ?_
  · exact Condition.group_isReread .or hall
  rw [List.forall_mem_cons, List.forall_mem_singleton]
  constructor
  · refine ownText_isReread hr (by simp [ownFields]) (hspelled _ ?_) rfl (fun _ => hblank) htitle
    simp [searches, Condition.comparisons]
  · refine ownText_isReread hr (by simp [ownFields]) (hspelled _ ?_) rfl (fun _ => hblank) rfl
    simp [searches, Condition.comparisons]

theorem anyOf_isReread {cs : List Condition} (h : ∀ c ∈ cs, c.IsReread r ctx) :
    ∀ c ∈ anyOf cs, c.IsReread r ctx := by
  intro c hc
  rcases cs with _ | ⟨first, _ | ⟨second, rest⟩⟩
  · cases hc
  · exact h c hc
  · obtain rfl := List.mem_singleton.mp hc
    exact Condition.group_isReread .or h

theorem searchConditions_isReread (hr : r.IsClosed) {terms : List String}
    (hterms : ∀ t ∈ terms, (Text.trim t).toList ≠ []) :
    ∀ c ∈ searchConditions terms, c.IsReread r ctx := by
  refine anyOf_isReread fun c hc => ?_
  obtain ⟨term, hterm, rfl⟩ := List.mem_map.mp hc
  exact searches_isReread hr (hterms term hterm)

/-! ## Filters -/

namespace Compiler

variable {c : Compiler}

theorem Asks.isReread (hr : c.registry.IsClosed) {p : Predicate} {cmp : Comparison}
    (h : Asks c ctx p cmp) : (Condition.comparison cmp).IsReread c.registry ctx := by
  have haccepts : cmp.field.valueType.accepts cmp.operator = true := by
    rw [h.operator]
    exact h.accepts
  refine Condition.comparison_isReread h.spelled (hr.found h.field) haccepts fun v hv => ?_
  obtain ⟨l, hl, hrender⟩ := exists_left_of_mem h.values hv
  refine render_isReread haccepts (fun t ht hop => ?_) hrender
  subst ht
  exact h.search t hl (by rw [← h.operator]; exact hop)

theorem Bounds.isReread (hr : c.registry.IsClosed) {w : DateWindow} {field : FieldDef}
    {cmps : List Comparison} (h : Bounds c ctx w field cmps) (hshort : ∀ p ∈ w.relative, p.IsShort) :
    ∀ cmp ∈ cmps, (Condition.comparison cmp).IsReread c.registry ctx := by
  intro cmp hcmp
  have hspelled := h.spelled cmp hcmp
  rw [h.comparisons] at hcmp
  obtain ⟨b, hb, rfl⟩ := List.mem_map.mp hcmp
  have hvalue : field.valueType.accepts b.1 = true ∧
      b.2.written.Admits c.registry ctx field b.1 b.2 := by
    simp only [DateWindow.bounds, List.mem_append, List.mem_map, Option.mem_toList] at hb
    rcases hb with (⟨period, hperiod, rfl⟩ | ⟨day, _, rfl⟩) | ⟨day, _, rfl⟩
    · have haccepts : field.valueType.accepts .ge = true := by rw [h.dated]; rfl
      refine ⟨haccepts, Value.date_again (fun m hm => ?_) h.dated haccepts⟩
      exact RelativePeriod.resolve_short (hshort period hperiod) hm
    · have haccepts : field.valueType.accepts .ge = true := by rw [h.dated]; rfl
      exact ⟨haccepts, Value.day_again day h.dated haccepts⟩
    · have haccepts : field.valueType.accepts .le = true := by rw [h.dated]; rfl
      exact ⟨haccepts, Value.day_again day h.dated haccepts⟩
  refine Condition.comparison_isReread hspelled (hr.found h.resolves) hvalue.1 ?_
  rw [List.forall_mem_singleton]
  exact hvalue.2.isReread

theorem scopeUnless_isReread (hr : r.IsClosed)
    (hproject : ∀ p ∈ ctx.project, isCurrentProject p = false) (pinned : Bool) :
    ∀ cond ∈ ctx.scopeUnless pinned, cond.IsReread r ctx := by
  cases pinned with
  | true => simp [QueryContext.scopeUnless]
  | false => simpa [QueryContext.scopeUnless] using scope_isReread hr hproject

theorem Compiles.comparisons_isReread (hr : c.registry.IsClosed) {f : ItemFilter} {q : Query}
    {comparisons windows : List Comparison} (h : Compiles c ctx f q comparisons windows) :
    ∀ cmp ∈ comparisons, (Condition.comparison cmp).IsReread c.registry ctx := by
  intro cmp hcmp
  obtain ⟨p, _, hp⟩ := exists_left_of_mem h.predicates hcmp
  exact hp.isReread hr

/-- What stands before the comparisons of the window is read back, and is never nothing. -/
theorem Compiles.beforeWindow (hr : c.registry.IsClosed)
    (hproject : ∀ p ∈ ctx.project, isCurrentProject p = false) {f : ItemFilter} {q : Query}
    {comparisons windows : List Comparison} (h : Compiles c ctx f q comparisons windows) :
    ∃ first before, q.conditions = first :: before
        ++ (windows.map .comparison ++ searchConditions f.freeTextTerms) ∧
      ∀ cond ∈ first :: before, cond.IsReread c.registry ctx := by
  have hbefore : ∀ cond ∈ ctx.scopeUnless (comparisons.any Comparison.pinsProject)
      ++ (idConditions f.ids ++ comparisons.map .comparison), cond.IsReread c.registry ctx := by
    simp only [List.forall_mem_append, List.forall_mem_map]
    exact ⟨scopeUnless_isReread hr hproject _, idConditions_isReread hr f.ids,
      h.comparisons_isReread hr⟩
  have hne : ctx.scopeUnless (comparisons.any Comparison.pinsProject)
      ++ (idConditions f.ids ++ comparisons.map .comparison) ≠ [] := by
    intro hnil
    simp only [List.append_eq_nil_iff] at hnil
    obtain ⟨hscope, _, hcomparisons⟩ := hnil
    exact scopeUnless_ne_nil ctx comparisons (by rw [hscope, hcomparisons]; rfl)
  obtain ⟨first, before, hfirst⟩ := List.exists_cons_of_ne_nil hne
  rw [hfirst] at hbefore
  refine ⟨first, before, ?_, hbefore⟩
  rw [h.conditions, ← hfirst]
  simp only [List.append_assoc]

theorem Compiles.isReread (hr : c.registry.IsClosed)
    (hproject : ∀ p ∈ ctx.project, isCurrentProject p = false) {f : ItemFilter} {q : Query}
    {comparisons windows : List Comparison} (h : Compiles c ctx f q comparisons windows)
    (hshort : ∀ w ∈ f.dateWindow, ∀ p ∈ w.relative, p.IsShort) :
    ∀ cond ∈ q.conditions, cond.IsReread c.registry ctx := by
  have hwindows : ∀ cmp ∈ windows, (Condition.comparison cmp).IsReread c.registry ctx := by
    rcases h.window with ⟨_, rfl⟩ | ⟨w, field, hw, hbounds⟩
    · simp
    · exact hbounds.isReread hr (hshort w hw)
  obtain ⟨first, before, hconditions, hbefore⟩ := h.beforeWindow hr hproject
  rw [hconditions, List.forall_mem_append, List.forall_mem_append, List.forall_mem_map]
  exact ⟨hbefore, hwindows, searchConditions_isReread hr h.terms⟩

theorem scope_pinsProject (ctx : QueryContext) : ctx.scope.pinsProject = true := by
  have hproject : FieldDef.teamProject.isTeamProject = true := by decide
  unfold QueryContext.scope
  split <;> simp [Condition.pinsProject, Comparison.pinsProject, Operator.pinsValue, hproject]

/-- The query of a filter has the scope of the context where no predicate pins the project. -/
theorem Compiles.pinsProject {f : ItemFilter} {q : Query} {comparisons windows : List Comparison}
    (h : Compiles c ctx f q comparisons windows) :
    q.conditions.any Condition.pinsProject = true := by
  rw [h.conditions]
  simp only [List.any_append, List.any_map]
  cases hpins : comparisons.any Comparison.pinsProject with
  | false => simp [QueryContext.scopeUnless, scope_pinsProject]
  | true =>
    have hsame : Condition.pinsProject ∘ Condition.comparison = Comparison.pinsProject := rfl
    simp [hsame, hpins]

theorem compileText_isReread (hr : c.registry.IsClosed)
    (hproject : ∀ p ∈ ctx.project, isCurrentProject p = false) {text : String} {q : Query}
    (h : c.compileText ctx text = .ok q) : ∀ cond ∈ q.conditions, cond.IsReread c.registry ctx := by
  obtain ⟨tokens, clause, htokens, hwrites, hconditions, _⟩ := compileText_ok h
  have hnumbers : ∀ t ∈ dropWhere tokens, t.IsNumbered :=
    fun t ht => Token.ofText_numbered htokens t (dropWhere_subset ht)
  rw [hconditions, List.forall_mem_append, List.forall_mem_singleton]
  refine ⟨scopeUnless_isReread hr hproject _, .group clause, ?_, rfl, rfl, rfl⟩
  exact .factor (.group (hwrites.again hr hnumbers))

end Compiler

/-! ## Queries -/

/-- An input whose period, if it is a filter with one, is short. -/
def QueryInput.IsShort : QueryInput → Prop
  | .filter f => ∀ w ∈ f.dateWindow, ∀ p ∈ w.relative, p.IsShort
  | .condition _ => True

namespace Compiler

variable {c : Compiler}

theorem compileInput_reread (hr : c.registry.IsClosed)
    (hproject : ∀ p ∈ ctx.project, isCurrentProject p = false) {input : QueryInput} {q : Query}
    (hshort : input.IsShort) (h : c.compileInput ctx input = .ok q) :
    ∃ body, Condition.ofText c.registry ctx q.body = .ok body ∧ body.text = q.body ∧
      ((∃ f, input = .filter f) → body.isScoped = true) := by
  have hwell := compileInput_wellFormed h
  cases input with
  | filter f =>
    obtain ⟨comparisons, windows, hcompiles⟩ := compile_ok h
    obtain ⟨body, hbody, htext, hscoped⟩ := hwell.ofText_reread (hcompiles.isReread hr hproject hshort)
    exact ⟨body, hbody, htext, fun _ => hscoped.trans hcompiles.pinsProject⟩
  | condition text =>
    obtain ⟨body, hbody, htext, _⟩ := hwell.ofText_reread (compileText_isReread hr hproject h)
    refine ⟨body, hbody, htext, ?_⟩
    rintro ⟨f, hf⟩
    cases hf

end Compiler

/-! ## Long periods -/

theorem DateMacro.readAtName_long {field : FieldDef} {m : DateMacro} (h : ¬m.IsShort) :
    readAtName field m.text = .error (.malformed (.unknownMacro m.text)) := by
  rw [readAtName, DateMacro.ofAtName?_text, DateMacro.ofText?_long h]
  rfl

/-- A comparison whose operands are refused is refused for them. -/
theorem readComparison_refused {field : FieldDef} (hfield : r.Refers field) {op : Operator}
    (haccepts : field.valueType.accepts op = true) {ws : List WrittenValue} (htakes : op.Takes ws)
    {rest : List Token} {e : CompileError}
    (h : readOperands r ctx field op (op.operandTokens ws ++ rest) = .error e) :
    readComparison r ctx field.reference (op.tokens ++ (op.operandTokens ws ++ rest)) = .error e := by
  have hop : readOperator field (op.tokens ++ (op.operandTokens ws ++ rest))
      = .ok (op, op.operandTokens ws ++ rest) :=
    readOperator_complete op.spells (operandTokens_starts htakes rest)
  rw [readComparison_eq, hfield.resolves]
  simp only [hfield.checks, hop, haccepts, h, if_true]
  rfl

/-- A comparison with a macro that has more digits than are read is refused, whatever follows it. -/
theorem readTerm_long {field : FieldDef} (hfield : r.Refers field)
    (hdated : field.valueType = .dateTime) {m : DateMacro} (hm : ¬m.IsShort) {rest : List Token}
    (hrest : Stops rest) (fuel : Nat) :
    readTerm r ctx (fuel + 2) ((Condition.comparison ⟨field, .ge, [.relative m]⟩).tokens ++ rest)
      = .error (.malformed (.unknownMacro m.text)) := by
  have htakes : Operator.ge.Takes [(Value.relative m).written] := rfl
  have haccepts : field.valueType.accepts .ge = true := by rw [hdated]; rfl
  have hoperands : readOperands r ctx field .ge
      (Operator.ge.operandTokens [(Value.relative m).written] ++ rest)
      = .error (.malformed (.unknownMacro m.text)) := by
    have htokens : Operator.ge.operandTokens [(Value.relative m).written]
        = (Value.relative m).written.tokens := List.flatMap_singleton ..
    rw [htokens]
    show (readValue r ctx field .ge _).map _ = _
    rw [Value.written, readValue_named hrest, DateMacro.nameText_text, DateMacro.readAtName_long hm]
    rfl
  have htokens : (Condition.comparison ⟨field, .ge, [.relative m]⟩).tokens ++ rest
      = .field field.reference :: (Operator.ge.tokens ++
        (Operator.ge.operandTokens [(Value.relative m).written] ++ rest)) := by
    simp only [Condition.tokens, Comparison.written, hfield.trimmed, WrittenComparison.tokens,
      List.map_singleton, List.cons_append, List.append_assoc]
  rw [htokens]
  show (readComparison r ctx field.reference _).map _ = _
  rw [readComparison_refused hfield haccepts htakes hoperands]
  rfl

/-- The tokens of conditions, with AND in front of each. -/
def andTokens (cs : List Condition) : List Token := cs.flatMap fun c => .word "AND" :: c.tokens

theorem stops_andTokens (cs : List Condition) {rest : List Token} (h : Stops rest) :
    Stops (andTokens cs ++ rest) := by
  cases cs with
  | nil => exact h
  | cons c cs => exact stops_word _ _

/-- Conditions that are read back, and then one that is refused. -/
theorem settles_refused {bad : List Token} {e : CompileError}
    (hbad : Reader.Settles (readTerm r ctx · bad) (.error e)) :
    ∀ {cs cs' : List Condition} (left : Condition), List.Forall₂ (Condition.ReadsAs r ctx) cs cs' →
      Reader.Settles (readChain r ctx · left (andTokens cs ++ .word "AND" :: bad)) (.error e) := by
  have hand : Connective.ofWord? "AND" = some .and := rfl
  intro cs
  induction cs with
  | nil => exact fun _ _ => Reader.settles_chain_error hand hbad
  | cons c cs ih =>
    intro cs' left h
    cases h with
    | @cons _ c' _ cs' hc hcs =>
      have hterm := hc.writes.recovers _ (stops_andTokens cs (stops_word "AND" bad))
      have hread := Reader.settles_chain hand hterm (ih (.join left .and c') hcs)
      simpa [andTokens] using hread

/-- The body of a query is refused for a condition of it that is refused wherever it stands. -/
theorem Query.WellFormed.ofText_refused {q : Query} (hq : q.WellFormed) {c bad : Condition}
    {before after : List Condition} {e : CompileError}
    (hconditions : q.conditions = c :: before ++ bad :: after)
    (hbefore : ∀ d ∈ c :: before, d.IsReread r ctx)
    (hbad : ∀ rest, Stops rest → Reader.Settles (readTerm r ctx · (bad.tokens ++ rest)) (.error e)) :
    Condition.ofText r ctx q.body = .error e := by
  obtain ⟨ds, hds⟩ := exists_forall₂ hbefore
  have htokens : q.bodyTokens
      = c.tokens ++ (andTokens before ++ .word "AND" :: (bad.tokens ++ andTokens after)) := by
    rw [Query.bodyTokens, hconditions, List.cons_append, List.map_cons, joinTokens_cons]
    simp [andTokens, List.flatMap_map]
  cases hds with
  | @cons _ c' _ ds' hc hrest =>
    have hbad := hbad (andTokens after) (by simpa using stops_andTokens after stops_nil)
    have hterm := hc.writes.recovers _ (stops_andTokens before
      (stops_word "AND" (bad.tokens ++ andTokens after)))
    have hread := Reader.settles_condition hterm (settles_refused hbad c' hrest)
    rw [← htokens] at hread
    have hne : q.bodyTokens ≠ [] := by
      rw [htokens]
      exact List.append_ne_nil_of_left_ne_nil hc.writes.ne_nil _
    have hdrop : dropWhere q.bodyTokens = q.bodyTokens := by
      rw [htokens, hc.writes.dropWhere_append]
    simp only [Condition.ofText, hq.ofText_body, hdrop]
    exact Condition.ofTokens_error hne q.bodyTokens_balanced hread

theorem RelativePeriod.resolve_long {p : RelativePeriod} (h : ¬p.IsShort) (today : Date) :
    ∃ m, p.resolve today = .relative m ∧ ¬m.IsShort := by
  cases p with
  | lastDays n | lastWeeks n | lastMonths n =>
    refine ⟨_, rfl, fun hm => h ?_⟩
    exact hm _ rfl
  | _ => exact absurd (by unfold IsShort; decide) h

namespace Compiler

variable {c : Compiler}

theorem Bounds.relative {w : DateWindow} {field : FieldDef} {cmps : List Comparison}
    (h : Bounds c ctx w field cmps) {p : RelativePeriod} (hp : w.relative = some p) :
    ∃ more, cmps = ⟨field, .ge, [(p.resolve ctx.today).toValue]⟩ :: more := by
  rw [h.comparisons, DateWindow.bounds, hp]
  simp

/-- The query of a filter with a long period has a body that is refused, for the macro of the
period. -/
theorem Compiles.ofText_long (hr : c.registry.IsClosed)
    (hproject : ∀ p ∈ ctx.project, isCurrentProject p = false) {f : ItemFilter} {q : Query}
    {comparisons windows : List Comparison} (h : Compiles c ctx f q comparisons windows)
    {w : DateWindow} (hw : f.dateWindow = some w) {p : RelativePeriod} (hp : w.relative = some p)
    (hlong : ¬p.IsShort) :
    ∃ m, p.resolve ctx.today = .relative m ∧ ¬m.IsShort ∧
      Condition.ofText c.registry ctx q.body = .error (.malformed (.unknownMacro m.text)) := by
  obtain ⟨m, hm, hmlong⟩ := RelativePeriod.resolve_long hlong ctx.today
  rcases h.window with ⟨hnone, _⟩ | ⟨w', field, hw', hbounds⟩
  · rw [hnone] at hw
    cases hw
  rw [hw] at hw'
  cases hw'
  obtain ⟨first, before, hconditions, hbefore⟩ := h.beforeWindow hr hproject
  obtain ⟨more, rfl⟩ := hbounds.relative hp
  rw [hm] at hconditions
  refine ⟨m, hm, hmlong, h.wellFormed.ofText_refused hconditions hbefore fun rest hrest => ?_⟩
  exact Reader.settles_of_succ 1 fun fuel hfuel => by
    obtain ⟨k, rfl⟩ : ∃ k, fuel = k + 1 := ⟨fuel - 1, by omega⟩
    exact readTerm_long (hr.found hbounds.resolves) hbounds.dated hmlong hrest k

/-- The body of a query is a condition written by hand, read back in the same context with the same
text, and for a filter one that is scoped; a long period excepted, for which the body is refused. What
has been read is read again from its canonical text as it is. Periods that are named in words are
short. -/
theorem compileInput_fixedPoint (caps : ResultCaps) (ctx : QueryContext) :
    ((∀ p ∈ ctx.project, isCurrentProject p = false) → ∀ input q,
      (Compiler.mk Registry.standard caps).compileInput ctx input = .ok q →
      (input.IsShort →
        ∃ body, Condition.ofText Registry.standard ctx q.body = .ok body ∧ body.text = q.body ∧
          ((∃ f, input = .filter f) → body.isScoped = true)) ∧
      (¬input.IsShort →
        ∃ m : DateMacro, ¬m.IsShort ∧ Condition.ofText Registry.standard ctx q.body
          = .error (.malformed (.unknownMacro m.text)))) ∧
    (∀ text clause, Condition.ofText Registry.standard ctx text = .ok clause →
      Condition.ofText Registry.standard ctx clause.text = .ok clause) ∧
    (∀ s p, RelativePeriod.ofText? s = some p → p.IsShort) := by
  have hclosed : (Compiler.mk Registry.standard caps).registry.IsClosed := Registry.standard_closed
  refine ⟨fun hproject input q hq => ⟨fun hshort => ?_, fun hlong => ?_⟩, fun text clause h => ?_,
    fun s p h => ?_⟩
  · exact compileInput_reread hclosed hproject hshort hq
  · cases input with
    | condition text => exact absurd trivial hlong
    | filter f =>
      obtain ⟨comparisons, windows, hcompiles⟩ := compile_ok hq
      simp only [QueryInput.IsShort, not_forall] at hlong
      obtain ⟨w, hw, p, hp, hlong⟩ := hlong
      obtain ⟨m, _, hm, hrefused⟩ := hcompiles.ofText_long hclosed hproject hw hp hlong
      exact ⟨m, hm, hrefused⟩
  · exact Condition.ofText_text Registry.standard_closed h
  · exact RelativePeriod.ofText?_short h

/-- One item, if it has been changed in the period. -/
def changedSince (period : RelativePeriod) : ItemFilter :=
  { ids := [1], dateWindow := some { relative := some period } }

def changedDate : FieldDef := ⟨Reference.changedDate, .dateTime⟩

theorem compile_changedSince (hr : c.registry.Refers changedDate) (period : RelativePeriod) :
    c.compile ctx (changedSince period) = .ok (Query.make
      [ctx.scope, .comparison ⟨FieldDef.id, .inList, [.whole 1]⟩,
        .comparison ⟨changedDate, .ge, [(period.resolve ctx.today).toValue]⟩]
      [OrderKey.default] (c.caps.effective none) {}) := by
  have hfield : c.field Reference.changedDate = .ok changedDate := field_ok_iff.mpr hr.resolves
  have hreference : checkReference changedDate = .ok () := by rw [checkReference, hr.checks]
  have hwindow : c.windowComparisons ctx { relative := some period }
      = .ok [⟨changedDate, .ge, [(period.resolve ctx.today).toValue]⟩] := by
    unfold windowComparisons
    simp only [hfield, hreference, ok_bind]
    rfl
  have hconditions : c.filterConditions ctx (changedSince period)
      = .ok ([.comparison ⟨FieldDef.id, .inList, [.whole 1]⟩,
        .comparison ⟨changedDate, .ge, [(period.resolve ctx.today).toValue]⟩], false) := by
    rw [filterConditions_eq]
    show c.windowComparisons ctx { relative := some period } >>= _ = _
    rw [hwindow]
    rfl
  unfold compile
  rw [hconditions]
  rfl

theorem standard_changedDate : Registry.standard.Refers changedDate :=
  Registry.standard_mem_refers (by decide)

theorem default_project : ∀ p ∈ QueryContext.default.project, isCurrentProject p = false := by
  intro p hp
  cases hp

/-- The macro of a hundred thousand days has one digit too many. -/
theorem compileInput_longPeriod :
    ∃ q, standard.compileInput .default (.filter (changedSince (.lastDays 100000))) = .ok q ∧
      ∀ body, Condition.ofText Registry.standard .default q.body ≠ .ok body := by
  have hclosed : standard.registry.IsClosed := Registry.standard_closed
  have hcompile := @compile_changedSince .default standard standard_changedDate (.lastDays 100000)
  have hlong : ¬RelativePeriod.IsShort (.lastDays 100000) := by
    unfold RelativePeriod.IsShort
    decide
  obtain ⟨comparisons, windows, hcompiles⟩ := compile_ok hcompile
  obtain ⟨m, _, _, hrefused⟩ := hcompiles.ofText_long hclosed default_project rfl rfl hlong
  refine ⟨_, hcompile, fun body hbody => ?_⟩
  have hboth := hrefused.symm.trans hbody
  cases hboth

theorem compileInput_fixedPoint_lastTwoWeeks :
    ∃ q body, standard.compileInput .default (.filter (changedSince (.lastWeeks 2))) = .ok q ∧
      Condition.ofText Registry.standard .default q.body = .ok body ∧ body.text = q.body ∧
      body.isScoped = true := by
  have hcompile := @compile_changedSince .default standard standard_changedDate (.lastWeeks 2)
  have hinput : (Compiler.mk Registry.standard {}).compileInput .default
      (.filter (changedSince (.lastWeeks 2))) = .ok _ := hcompile
  have hshort : (QueryInput.filter (changedSince (.lastWeeks 2))).IsShort := by
    intro w hw p hp
    cases hw
    cases hp
    unfold RelativePeriod.IsShort
    decide
  have hread := ((compileInput_fixedPoint {} .default).1 default_project _ _ hinput).1 hshort
  obtain ⟨body, hbody, htext, hscoped⟩ := hread
  exact ⟨_, body, hcompile, hbody, htext, hscoped ⟨_, rfl⟩⟩

end Compiler
end WorkQuery
