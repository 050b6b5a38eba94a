import WorkQuery.Proofs.Query.Compiled

/-!
# WorkQuery.Proofs.Query.Independence

What a query owes to its context. Two runs of the compiler on one input, in two contexts, go side by
side (`Agree`): the context is asked for nothing but the day from which quarters are counted, and
every period has a first day, whatever today is.

* `render_agree`, `Reader.agrees`: values, and conditions written by hand.
* `Compiler.compileInput_agree`: queries for both shapes of input.
* `Compiler.compileInput_independent`: whether an input compiles, and why not, is the same in all
  contexts. On one day the queries differ in the scope that the compiler adds, and in nothing else.
-/

namespace WorkQuery

variable {r : Registry} {ctx ctx' : QueryContext} {field : FieldDef} {op : Operator}

/-- The same on one day. -/
def SameOnDay {α : Type} (ctx ctx' : QueryContext) (a b : α) : Prop := ctx.today = ctx'.today → a = b

theorem sameOnDay_refl {α : Type} (a : α) : SameOnDay ctx ctx' a a := fun _ => rfl

/-! ## Values -/

theorem render_agree (l : Literal) :
    Agree (SameOnDay ctx ctx') (l.render field ctx) (l.render field ctx') := by
  obtain ⟨reference, type⟩ := field
  cases l with
  | integer n =>
    cases type
    all_goals
      simp only [Literal.render]
      exact Agree.refl sameOnDay_refl _
  | text t =>
    cases type with
    | dateTime =>
      simp only [Literal.render, DateExpr.ofText?]
      cases RelativePeriod.ofText? (String.ofList (Text.trimChars t.toList)) with
      | some period =>
        refine .ok fun hday => ?_
        rw [hday]
      | none => exact Agree.refl sameOnDay_refl _
    | string | identity | integer | treePath | plainText =>
      simp only [Literal.render]
      exact Agree.refl sameOnDay_refl _

theorem renders_agree (ls : List Literal) :
    Agree (SameOnDay ctx ctx') (ls.mapM (Literal.render field ctx))
      (ls.mapM (Literal.render field ctx')) := by
  refine (Agree.mapM fun l _ => render_agree l).imp fun vs vs' h hday => ?_
  rw [← List.forall₂_eq_eq_eq]
  exact h.imp fun v v' hv => hv hday

/-- Comparisons of the same field with the same operator. -/
structure Comparison.Alike (ctx ctx' : QueryContext) (c c' : Comparison) : Prop where
  field : c.field = c'.field
  operator : c.operator = c'.operator
  values : SameOnDay ctx ctx' c.values c'.values

namespace Comparison.Alike

variable {c c' : Comparison}

theorem pinsProject (h : c.Alike ctx ctx' c') : c.pinsProject = c'.pinsProject := by
  rw [Comparison.pinsProject, Comparison.pinsProject, h.field, h.operator]

theorem eq_of_day (h : c.Alike ctx ctx' c') (hday : ctx.today = ctx'.today) : c = c' := by
  obtain ⟨hfield, hoperator, hvalues⟩ := h
  have hsame := hvalues hday
  cases c
  cases c'
  simp_all

end Comparison.Alike

theorem pinsProject_any {cs cs' : List Comparison}
    (h : List.Forall₂ (Comparison.Alike ctx ctx') cs cs') :
    cs.any Comparison.pinsProject = cs'.any Comparison.pinsProject := by
  induction h with
  | nil => rfl
  | cons h _ ih => rw [List.any_cons, List.any_cons, h.pinsProject, ih]

/-- Conditions of one form whose comparisons are alike. -/
inductive Condition.Alike (ctx ctx' : QueryContext) : Condition → Condition → Prop where
  | comparison {c c' : Comparison} :
      c.Alike ctx ctx' c' → Alike ctx ctx' (.comparison c) (.comparison c')
  | group {c c' : Condition} : Alike ctx ctx' c c' → Alike ctx ctx' (.group c) (.group c')
  | negation {c c' : Condition} : Alike ctx ctx' c c' → Alike ctx ctx' (.negation c) (.negation c')
  | join {left left' right right' : Condition} (k : Connective) :
      Alike ctx ctx' left left' → Alike ctx ctx' right right' →
      Alike ctx ctx' (.join left k right) (.join left' k right')

namespace Condition.Alike

variable {c c' : Condition}

theorem isScoped (h : c.Alike ctx ctx' c') : c.isScoped = c'.isScoped := by
  have hboth : c.pinsProject = c'.pinsProject ∧ c.hasTopLevelOr = c'.hasTopLevelOr := by
    induction h with
    | comparison h => exact ⟨h.pinsProject, rfl⟩
    | group _ _ => exact ⟨rfl, rfl⟩
    | negation _ _ => exact ⟨rfl, rfl⟩
    | join k _ _ ihl ihr =>
      simp only [Condition.pinsProject, hasTopLevelOr, ihl.1, ihl.2, ihr.1, ihr.2, and_self]
  rw [Condition.isScoped, Condition.isScoped, hboth.1, hboth.2]

theorem eq_of_day (h : c.Alike ctx ctx' c') (hday : ctx.today = ctx'.today) : c = c' := by
  induction h with
  | comparison h => rw [h.eq_of_day hday]
  | group _ ih => rw [ih]
  | negation _ ih => rw [ih]
  | join k _ _ ihl ihr => rw [ihl, ihr]

end Condition.Alike

/-! ## Conditions written by hand -/

/-- Results of two readers that leave the same tokens. -/
def Beside {α β : Type} (R : α → β → Prop) (p : α × List Token) (p' : β × List Token) : Prop :=
  R p.1 p'.1 ∧ p.2 = p'.2

theorem beside_refl {α : Type} (p : α × List Token) : Beside (SameOnDay ctx ctx') p p :=
  ⟨sameOnDay_refl _, rfl⟩

theorem unexpected_agree {α β : Type} {R : α → β → Prop} (wanted : Expectation)
    (tokens : List Token) : Agree R (unexpected wanted tokens) (unexpected wanted tokens) := by
  unfold unexpected
  split
  · split <;> exact .error _
  · exact .error _
  · exact .error _

theorem readNumber_agree (spelling : String) :
    Agree (SameOnDay ctx ctx') (readNumber field ctx spelling) (readNumber field ctx' spelling) := by
  unfold readNumber
  split
  · exact render_agree _
  · exact Agree.refl sameOnDay_refl _

theorem readValue_agree (tokens : List Token) :
    Agree (Beside (SameOnDay ctx ctx')) (readValue r ctx field op tokens)
      (readValue r ctx' field op tokens) := by
  have hpair : ∀ (rest : List Token) (v v' : Value), SameOnDay ctx ctx' v v' →
      Beside (SameOnDay ctx ctx') (v, rest) (v', rest) := fun _ _ _ h => ⟨h, rfl⟩
  unfold readValue
  split
  · split
    · exact .error _
    · split
      · exact .error _
      · exact (render_agree _).map (hpair _)
  · exact (readNumber_agree _).map (hpair _)
  · exact unexpected_agree _ _
  · exact (readNumber_agree _).map (hpair _)
  · exact Agree.refl beside_refl _
  · exact Agree.refl beside_refl _
  · exact Agree.refl beside_refl _
  · exact unexpected_agree _ _

theorem readValues_agree : ∀ (fuel : Nat) (tokens : List Token),
    Agree (Beside (SameOnDay ctx ctx')) (readValues r ctx field op fuel tokens)
      (readValues r ctx' field op fuel tokens) := by
  intro fuel
  induction fuel with
  | zero => intro tokens; exact .error _
  | succ fuel ih =>
    intro tokens
    rw [readValues, readValues]
    refine (readValue_agree tokens).bind ?_
    rintro ⟨v, rest⟩ ⟨v', _⟩ ⟨hv, rfl⟩
    simp only []
    split
    · refine (ih _).bind ?_
      rintro ⟨vs, left⟩ ⟨vs', _⟩ ⟨hvs, rfl⟩
      exact .ok ⟨fun hday => congrArg₂ List.cons (hv hday) (hvs hday), rfl⟩
    · exact .ok ⟨fun hday => congrArg (fun v => [v]) (hv hday), rfl⟩
    · exact unexpected_agree _ _

theorem readOperands_agree (tokens : List Token) :
    Agree (Beside (SameOnDay ctx ctx')) (readOperands r ctx field op tokens)
      (readOperands r ctx' field op tokens) := by
  unfold readOperands
  split
  · split
    · exact readValues_agree _ _
    · exact unexpected_agree _ _
  · refine (readValue_agree tokens).map ?_
    rintro ⟨v, rest⟩ ⟨v', _⟩ ⟨hv, rfl⟩
    exact ⟨fun hday => congrArg (fun v => [v]) (hv hday), rfl⟩

theorem readComparison_agree (name : String) (tokens : List Token) :
    Agree (Beside (Comparison.Alike ctx ctx')) (readComparison r ctx name tokens)
      (readComparison r ctx' name tokens) := by
  rw [readComparison_eq, readComparison_eq]
  split
  · exact .error _
  · split
    · exact .error _
    · split
      · exact .error _
      · split
        · refine (readOperands_agree _).map ?_
          rintro ⟨vs, rest⟩ ⟨vs', _⟩ ⟨hvs, rfl⟩
          exact ⟨⟨rfl, rfl, hvs⟩, rfl⟩
        · exact .error _

namespace Reader

/-- What the four readers yield with this fuel in one context and in the other. -/
structure Agrees (r : Registry) (ctx ctx' : QueryContext) (fuel : Nat) : Prop where
  condition : ∀ tokens, Agree (Beside (Condition.Alike ctx ctx'))
    (readCondition r ctx fuel tokens) (readCondition r ctx' fuel tokens)
  chain : ∀ {left left'} tokens, left.Alike ctx ctx' left' →
    Agree (Beside (Condition.Alike ctx ctx')) (readChain r ctx fuel left tokens)
      (readChain r ctx' fuel left' tokens)
  term : ∀ tokens, Agree (Beside (Condition.Alike ctx ctx'))
    (readTerm r ctx fuel tokens) (readTerm r ctx' fuel tokens)
  factor : ∀ tokens, Agree (Beside (Condition.Alike ctx ctx'))
    (readFactor r ctx fuel tokens) (readFactor r ctx' fuel tokens)

variable {fuel : Nat}

theorem condition_agree (ih : Agrees r ctx ctx' fuel) (tokens : List Token) :
    Agree (Beside (Condition.Alike ctx ctx')) (readCondition r ctx (fuel + 1) tokens)
      (readCondition r ctx' (fuel + 1) tokens) := by
  rw [readCondition_succ, readCondition_succ]
  refine (ih.term tokens).bind ?_
  rintro ⟨first, rest⟩ ⟨first', _⟩ ⟨hfirst, rfl⟩
  exact ih.chain rest hfirst

theorem chain_agree (ih : Agrees r ctx ctx' fuel) {left left' : Condition} (tokens : List Token)
    (hleft : left.Alike ctx ctx' left') :
    Agree (Beside (Condition.Alike ctx ctx')) (readChain r ctx (fuel + 1) left tokens)
      (readChain r ctx' (fuel + 1) left' tokens) := by
  have hends : ∀ rest : List Token, Agree (Beside (Condition.Alike ctx ctx'))
      (Except.ok (left, rest) : Except CompileError _) (.ok (left', rest)) :=
    fun _ => .ok ⟨hleft, rfl⟩
  rcases tokens with _ | ⟨t, rest⟩
  · exact hends _
  · cases t with
    | word w =>
      cases hk : Connective.ofWord? w with
      | none =>
        simp only [readChain, hk]
        exact hends _
      | some k =>
        rw [readChain_word hk, readChain_word hk]
        refine (ih.term rest).bind ?_
        rintro ⟨right, left⟩ ⟨right', _⟩ ⟨hright, rfl⟩
        exact ih.chain left (.join k hleft hright)
    | _ => exact hends _

theorem term_agree (ih : Agrees r ctx ctx' fuel) (tokens : List Token) :
    Agree (Beside (Condition.Alike ctx ctx')) (readTerm r ctx (fuel + 1) tokens)
      (readTerm r ctx' (fuel + 1) tokens) := by
  rw [readTerm, readTerm]
  split
  · refine (ih.factor _).map ?_
    rintro ⟨inner, rest⟩ ⟨inner', _⟩ ⟨hinner, rfl⟩
    exact ⟨.negation hinner, rfl⟩
  · exact ih.factor tokens

theorem factor_agree (ih : Agrees r ctx ctx' fuel) (tokens : List Token) :
    Agree (Beside (Condition.Alike ctx ctx')) (readFactor r ctx (fuel + 1) tokens)
      (readFactor r ctx' (fuel + 1) tokens) := by
  rcases tokens with _ | ⟨t, rest⟩
  · simp only [readFactor]
    exact unexpected_agree _ _
  · cases t with
    | leftParen =>
      rw [readFactor_group, readFactor_group]
      refine (ih.condition rest).bind ?_
      rintro ⟨inner, left⟩ ⟨inner', _⟩ ⟨hinner, rfl⟩
      simp only []
      split
      · exact .ok ⟨.group hinner, rfl⟩
      · exact unexpected_agree _ _
    | field name =>
      simp only [readFactor]
      refine (readComparison_agree name rest).map ?_
      rintro ⟨c, left⟩ ⟨c', _⟩ ⟨hc, rfl⟩
      exact ⟨.comparison hc, rfl⟩
    | _ =>
      simp only [readFactor]
      exact unexpected_agree _ _

theorem agrees (r : Registry) (ctx ctx' : QueryContext) (fuel : Nat) : Agrees r ctx ctx' fuel := by
  induction fuel with
  | zero =>
    exact ⟨fun _ => .error _, fun _ _ => .error _, fun _ => .error _, fun _ => .error _⟩
  | succ fuel ih => exact ⟨condition_agree ih, chain_agree ih, term_agree ih, factor_agree ih⟩

end Reader

theorem Condition.ofTokens_agree (r : Registry) (ctx ctx' : QueryContext) (tokens : List Token) :
    Agree (Condition.Alike ctx ctx') (Condition.ofTokens r ctx tokens)
      (Condition.ofTokens r ctx' tokens) := by
  rw [ofTokens_eq, ofTokens_eq]
  split
  · exact .error _
  · refine Agree.bind_same (checkBalance 0 tokens) fun _ => ?_
    refine ((Reader.agrees r ctx ctx' _).condition _).bind ?_
    rintro ⟨cond, rest⟩ ⟨cond', _⟩ ⟨hcond, rfl⟩
    simp only []
    split
    · exact .ok hcond
    · exact unexpected_agree _ _

theorem Condition.ofText_agree (r : Registry) (ctx ctx' : QueryContext) (text : String) :
    Agree (Condition.Alike ctx ctx') (Condition.ofText r ctx text) (Condition.ofText r ctx' text) := by
  unfold Condition.ofText
  split
  · exact .error _
  · exact ofTokens_agree r ctx ctx' _

/-! ## Queries -/

/-- The same query, or two that each have the scope of their context in front and nothing else that
the other has not. -/
inductive Query.SameButScope (ctx ctx' : QueryContext) : Query → Query → Prop where
  | pinned (q : Query) : SameButScope ctx ctx' q q
  | ownScope (rest : List Condition) (order : List OrderKey) (cap : Nat) (extras : Extras) :
      SameButScope ctx ctx' ⟨ctx.scope :: rest, order, cap, extras⟩
        ⟨ctx'.scope :: rest, order, cap, extras⟩

theorem Query.SameButScope.text {q q' : Query} (h : q.SameButScope ctx ctx' q') :
    q.text = q'.text ∨ ∃ before after, q.text = before ++ ctx.scope.text ++ after ∧
      q'.text = before ++ ctx'.scope.text ++ after := by
  cases h with
  | pinned => exact .inl rfl
  | ownScope rest order cap extras =>
    -- what stands behind the scope: the other conditions, if there are any, and the order
    obtain ⟨after, hafter⟩ : ∃ after, ∀ scope : Condition,
        Text.join " AND " ((scope :: rest).map Condition.text) = scope.text ++ after := by
      cases rest with
      | nil =>
        refine ⟨"", fun scope => ?_⟩
        rw [List.map_singleton, Text.join_singleton, String.append_empty]
      | cons c rest =>
        refine ⟨" AND " ++ Text.join " AND " ((c :: rest).map Condition.text), fun scope => ?_⟩
        rw [List.map_cons, List.map_cons, Text.join_cons_cons, String.append_assoc]
    refine .inr ⟨"SELECT " ++ columnsText ++ " FROM WorkItems WHERE ",
      after ++ " ORDER BY " ++ Text.join ", " (order.map OrderKey.text), ?_, ?_⟩
    all_goals simp only [Query.text, body, orderText, hafter, String.append_assoc]

/-- Queries of one input: on one day they differ in the scope alone. -/
structure Query.Alike (ctx ctx' : QueryContext) (q q' : Query) : Prop where
  cap : q.cap = q'.cap
  extras : q.extras = q'.extras
  order : q.order = q'.order
  sameButScope : ctx.today = ctx'.today → q.SameButScope ctx ctx' q'

theorem Query.make_alike (pinned : Bool) {conds conds' : List Condition}
    (h : SameOnDay ctx ctx' conds conds') (order : List OrderKey) (cap : Nat) (extras : Extras) :
    (make (ctx.scopeUnless pinned ++ conds) order cap extras).Alike ctx ctx'
      (make (ctx'.scopeUnless pinned ++ conds') order cap extras) := by
  refine ⟨rfl, rfl, rfl, fun hday => ?_⟩
  rw [h hday]
  cases pinned with
  | true => exact .pinned _
  | false => exact .ownScope _ _ _ _

namespace Compiler

variable {c : Compiler}

theorem comparison_agree (p : Predicate) :
    Agree (Comparison.Alike ctx ctx') (c.comparison ctx p) (c.comparison ctx' p) := by
  unfold comparison
  refine Agree.bind_same (c.field p.field) fun field => ?_
  refine Agree.refusal ?_
  refine Agree.bind_same (literals field p.operator p.value) fun ls => ?_
  refine Agree.bind_same (checkSearch field p.operator ls) fun _ => ?_
  refine (renders_agree ls).bind fun vs vs' hvs => ?_
  refine Agree.bind_same (checkReference field) fun _ => ?_
  exact .ok ⟨rfl, rfl, hvs⟩

/-- A period has a first day whatever today is, so a window has bounds in all contexts or in none. -/
theorem windowComparisons_agree (w : DateWindow) :
    Agree (SameOnDay ctx ctx') (c.windowComparisons ctx w) (c.windowComparisons ctx' w) := by
  unfold windowComparisons
  refine Agree.bind_same (c.field w.field) fun field => ?_
  refine Agree.refusal ?_
  refine Agree.bind_same (checkReference field) fun _ => ?_
  cases w.range with
  | error fault => exact .error _
  | ok range =>
    cases range with
    | relative period =>
      refine .ok fun hday => ?_
      rw [hday]
    | days start finish => exact .ok (sameOnDay_refl _)

theorem filterConditions_agree (f : ItemFilter) :
    Agree (fun p p' : List Condition × Bool => SameOnDay ctx ctx' p.1 p'.1 ∧ p.2 = p'.2)
      (c.filterConditions ctx f) (c.filterConditions ctx' f) := by
  rw [filterConditions_eq, filterConditions_eq]
  refine Agree.bind_same _ fun ids => ?_
  refine (Agree.mapM fun p _ => comparison_agree p).bind fun cmps cmps' hcmps => ?_
  refine Agree.bind (R := SameOnDay ctx ctx') ?_ fun windows windows' hwindows => ?_
  · split
    · exact windowComparisons_agree _
    · exact .ok (sameOnDay_refl _)
  · refine Agree.bind_same (termsCondition f.freeTextTerms) fun terms => ?_
    refine .ok ⟨fun hday => ?_, ?_⟩
    · have hsame : cmps = cmps' := by
        rw [← List.forall₂_eq_eq_eq]
        exact hcmps.imp fun _ _ h => h.eq_of_day hday
      simp only [hsame, hwindows hday]
    · exact pinsProject_any hcmps

theorem compile_agree (f : ItemFilter) :
    Agree (Query.Alike ctx ctx') (c.compile ctx f) (c.compile ctx' f) := by
  unfold compile
  refine Agree.refusal ?_
  refine (filterConditions_agree f).bind ?_
  rintro ⟨conds, pinned⟩ ⟨conds', _⟩ ⟨hconds, rfl⟩
  refine Agree.bind_same (c.filterCap f.maxItems) fun cap => ?_
  refine Agree.bind_same (c.orderKeys f.sort) fun order => ?_
  have hmade := Query.make_alike pinned hconds order cap f.extras
  cases pinned <;> exact .ok hmade

theorem compileText_agree (text : String) :
    Agree (Query.Alike ctx ctx') (c.compileText ctx text) (c.compileText ctx' text) := by
  unfold compileText
  refine (Condition.ofText_agree c.registry ctx ctx' text).bind fun cond cond' hcond => ?_
  rw [hcond.isScoped]
  exact .ok (Query.make_alike _ (fun hday => by rw [hcond.eq_of_day hday]) _ _ _)

theorem compileInput_agree (c : Compiler) (ctx ctx' : QueryContext) (input : QueryInput) :
    Agree (Query.Alike ctx ctx') (c.compileInput ctx input) (c.compileInput ctx' input) := by
  cases input with
  | filter f => exact compile_agree f
  | condition text => exact compileText_agree text

/-- An input compiles in every context or in none, and then with one and the same error; so a filter
that passes the check compiles whatever the context is. On one day its queries return as many items,
with the same extras, and differ in the scope of the context alone. -/
theorem compileInput_independent (c : Compiler) :
    (∀ input ctx ctx',
      (∃ q q', c.compileInput ctx input = .ok q ∧ c.compileInput ctx' input = .ok q') ∨
      ∃ e, c.compileInput ctx input = .error e ∧ c.compileInput ctx' input = .error e) ∧
    (∀ f, c.check f = .ok () ↔ ∀ ctx, ∃ q, c.compile ctx f = .ok q) ∧
    ∀ input ctx ctx' q q', ctx.today = ctx'.today → c.compileInput ctx input = .ok q →
      c.compileInput ctx' input = .ok q' →
      q.cap = q'.cap ∧ q.extras = q'.extras ∧ q.SameButScope ctx ctx' q' ∧
      (q.text = q'.text ∨ ∃ before after, q.text = before ++ ctx.scope.text ++ after ∧
        q'.text = before ++ ctx'.scope.text ++ after) := by
  refine ⟨fun input ctx ctx' => ?_, fun f => ⟨fun h ctx => ?_, fun h => ?_⟩,
    fun input ctx ctx' q q' hday hq hq' => ?_⟩
  · have hagree := compileInput_agree c ctx ctx' input
    cases hresult : c.compileInput ctx input with
    | error e => exact .inr ⟨e, rfl, (hagree.error_iff e).mp hresult⟩
    | ok q =>
      obtain ⟨q', hq', _⟩ := hagree.ok_of_ok hresult
      exact .inl ⟨q, q', rfl, hq'⟩
  · obtain ⟨q, hq, _⟩ := map_ok_iff.mp h
    obtain ⟨q', hq', _⟩ := (compileInput_agree c .default ctx (.filter f)).ok_of_ok hq
    exact ⟨q', hq'⟩
  · obtain ⟨q, hq⟩ := h .default
    rw [check, hq]
    rfl
  · obtain ⟨q'', hq'', halike⟩ := (compileInput_agree c ctx ctx' input).ok_of_ok hq
    obtain rfl : q'' = q' := by
      rw [hq'] at hq''
      exact (Except.ok.inj hq'').symm
    have hsame := halike.sameButScope hday
    exact ⟨halike.cap, halike.extras, hsame, hsame.text⟩

/-- Items that changed in this quarter. -/
def changedThisQuarter : ItemFilter :=
  { ids := [7, 9], dateWindow := some { relative := some .startOfQuarter } }

def datesOnly : Compiler :=
  ⟨⟨[("system.changeddate", ⟨Reference.changedDate, .dateTime⟩)], [], [], []⟩, {}⟩

theorem compileInput_independent_quarter :
    ∃ q q', datesOnly.compile ⟨some "Web", Date.epoch⟩ changedThisQuarter = .ok q ∧
      datesOnly.compile ⟨none, Date.epoch⟩ changedThisQuarter = .ok q' ∧
      q.SameButScope ⟨some "Web", Date.epoch⟩ ⟨none, Date.epoch⟩ q' := by
  obtain ⟨_, _, hsame, _⟩ := (compileInput_independent datesOnly).2.2 (.filter changedThisQuarter)
    ⟨some "Web", Date.epoch⟩ ⟨none, Date.epoch⟩ _ _ rfl rfl rfl
  exact ⟨_, _, rfl, rfl, hsame⟩

end Compiler
end WorkQuery
