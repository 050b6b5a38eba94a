import WorkQuery.Proofs.Query.Row

/-!
# WorkQuery.Proofs.Query.Canonical

A condition written by hand and its canonical text: the words differ, the meaning does not.

* `Rewrites`: tokens that differ in the spelling of words, operators, references and operands only,
  with every connective, NOT, parenthesis and comma in its place.
* `Says`: what tokens written by hand mean, by a grammar in which NOT binds tighter than AND and AND
  tighter than OR, and apart from the condition that is made of them.
* `Writes.says`, `Says.writes`: what tokens mean is what the condition that they derive means. A
  condition is joined from the left whatever binds tighter, so a conjunction is followed through a
  chain with the disjunction before it.
* `Condition.ofText_canonical`: the two together, for a text and for the query that is made of it.
-/

namespace WorkQuery

section

variable (r : Registry) (ctx : QueryContext)

/-- Tokens written by hand, and the canonical ones in their place. -/
inductive Rewrites : List Token → List Token → Prop where
  | nil : Rewrites [] []
  | connective {w : String} {k : Connective} {ts us : List Token} :
      Connective.ofWord? w = some k → Rewrites ts us → Rewrites (.word w :: ts) (.word k.token :: us)
  | negation {w : String} {ts us : List Token} :
      Text.sameIgnoringCase w "NOT" = true → Rewrites ts us →
      Rewrites (.word w :: ts) (.word "NOT" :: us)
  | leftParen {ts us : List Token} : Rewrites ts us → Rewrites (.leftParen :: ts) (.leftParen :: us)
  | rightParen {ts us : List Token} :
      Rewrites ts us → Rewrites (.rightParen :: ts) (.rightParen :: us)
  | comparison {name bare : String} {field : FieldDef} {ops : List Token} {op : Operator}
      {ws : List WrittenValue} {vs : List Value} {ts us : List Token} :
      r.resolve? name = some field → Quote.checkReference field.reference = .ok bare →
      SpellsOperator ops op → op.Takes ws →
      List.Forall₂ (WrittenValue.Admits r ctx field op) ws vs → Rewrites ts us →
      Rewrites (.field name :: (ops ++ op.operandTokens ws) ++ ts)
        (.field bare :: (op.tokens ++ op.operandTokens (vs.map Value.written)) ++ us)

/-- How tightly a part of a condition written by hand is bound, the loosest first. -/
inductive Part where
  | disjunction
  | conjunction
  | term
  | factor

/-- What tokens written by hand mean, given what comparisons mean. -/
inductive Says (v : WrittenComparison → Prop) : Part → List Token → Prop → Prop where
  | comparison {ts : List Token} {c : Comparison} :
      WritesComparison r ctx ts c → Says v .factor ts (v c.written)
  | group {ts : List Token} {P : Prop} :
      Says v .disjunction ts P → Says v .factor (.leftParen :: ts ++ [.rightParen]) P
  | factor {ts : List Token} {P : Prop} : Says v .factor ts P → Says v .term ts P
  | negation {w : String} {ts : List Token} {P : Prop} :
      Text.sameIgnoringCase w "NOT" = true → Says v .factor ts P → Says v .term (.word w :: ts) (¬P)
  | term {ts : List Token} {P : Prop} : Says v .term ts P → Says v .conjunction ts P
  | and {ts us : List Token} {w : String} {P Q : Prop} :
      Says v .conjunction ts P → Connective.ofWord? w = some .and → Says v .term us Q →
      Says v .conjunction (ts ++ .word w :: us) (P ∧ Q)
  | conjunction {ts : List Token} {P : Prop} : Says v .conjunction ts P → Says v .disjunction ts P
  | or {ts us : List Token} {w : String} {P Q : Prop} :
      Says v .disjunction ts P → Connective.ofWord? w = some .or → Says v .conjunction us Q →
      Says v .disjunction (ts ++ .word w :: us) (P ∨ Q)

end

variable {r : Registry} {ctx : QueryContext} {v : WrittenComparison → Prop}

/-! ## Canonical tokens -/

theorem Rewrites.append {ts us ts' us' : List Token} (h : Rewrites r ctx ts us)
    (h' : Rewrites r ctx ts' us') : Rewrites r ctx (ts ++ ts') (us ++ us') := by
  induction h with
  | nil => exact h'
  | connective hk _ ih => exact .connective hk ih
  | negation hw _ ih => exact .negation hw ih
  | leftParen _ ih => exact .leftParen ih
  | rightParen _ ih => exact .rightParen ih
  | comparison hfield hbare hspells htakes hws _ ih =>
    have hall := Rewrites.comparison hfield hbare hspells htakes hws ih
    simpa using hall

theorem WritesComparison.rewrites {ts : List Token} {c : Comparison}
    (h : WritesComparison r ctx ts c) : Rewrites r ctx ts c.written.tokens := by
  cases h with
  | mk hfield hbare hspells _ htakes hws =>
    obtain ⟨rfl, _⟩ := checkReference_ok hbare
    have hall := Rewrites.comparison hfield hbare hspells htakes hws .nil
    simpa [Comparison.written, WrittenComparison.tokens] using hall

theorem Writes.rewrites {p : Production} {ts : List Token} {c : Condition}
    (h : Writes r ctx p ts c) : Rewrites r ctx ts c.tokens := by
  induction h with
  | term _ ih => exact ih
  | join _ hk _ ihl ihr => exact ihl.append (.connective hk ihr)
  | factor _ ih => exact ih
  | negation hw _ ih => exact .negation hw ih
  | comparison h => exact h.rewrites
  | group _ ih => exact .leftParen (ih.append (.rightParen .nil))

/-! ## One meaning -/

theorem Says.congr {p : Part} {ts : List Token} {P Q : Prop} (h : Says r ctx v p ts P) (hPQ : P ↔ Q) :
    Says r ctx v p ts Q := by
  rw [← propext hPQ]
  exact h

/-- What is not a chain has no disjunct before its last one. -/
theorem Condition.IsFactor.truth_fst {c : Condition} (h : c.IsFactor) : (c.truth v).1 ↔ False := by
  cases c with
  | comparison _ | group _ | negation _ => rfl
  | join _ _ _ => exact absurd h id

theorem Condition.IsFactor.truth_snd {c : Condition} (h : c.IsFactor) :
    (c.truth v).2 ↔ c.Holds v := by
  rw [Condition.Holds, h.truth_fst, false_or]

/-- What the tokens of a part of a condition mean. Those of a chain are a conjunction alone, or a
disjunction and then the conjunction that the chain goes on with. -/
def Says.Meant (r : Registry) (ctx : QueryContext) (v : WrittenComparison → Prop) (ts : List Token)
    (c : Condition) : Production → Prop
  | .condition =>
    (¬(c.truth v).1 ∧ Says r ctx v .conjunction ts (c.truth v).2) ∨
    ∃ before w last, ts = before ++ .word w :: last ∧ Connective.ofWord? w = some .or ∧
      Says r ctx v .disjunction before (c.truth v).1 ∧ Says r ctx v .conjunction last (c.truth v).2
  | .term => Says r ctx v .term ts (c.Holds v)
  | .factor => Says r ctx v .factor ts (c.Holds v)

theorem Says.Meant.says {ts : List Token} {c : Condition} (h : Meant r ctx v ts c .condition) :
    Says r ctx v .disjunction ts (c.Holds v) := by
  rcases h with ⟨hnone, hlast⟩ | ⟨before, w, last, rfl, hw, hbefore, hlast⟩
  · have hholds : (c.truth v).2 ↔ c.Holds v := by simp [Condition.Holds, hnone]
    exact .conjunction (hlast.congr hholds)
  · exact .or hbefore hw hlast

theorem Writes.meant {p : Production} {ts : List Token} {c : Condition} (h : Writes r ctx p ts c) :
    Says.Meant r ctx v ts c p := by
  induction h with
  | term hterm ih =>
    have hfactor := hterm.chained.2 nofun
    exact .inl ⟨by simp [hfactor.truth_fst], (Says.term ih).congr hfactor.truth_snd.symm⟩
  | @join ts us w k left right _ hk _ ihl ihr =>
    cases k with
    | or => exact .inr ⟨ts, w, us, rfl, hk, ihl.says, .term ihr⟩
    | and =>
      -- the term goes to the conjunction that the chain ends in
      rcases ihl with ⟨hnone, hlast⟩ | ⟨before, u, last, rfl, hu, hbefore, hlast⟩
      · exact .inl ⟨hnone, .and hlast hk ihr⟩
      · exact .inr ⟨before, u, last ++ .word w :: us, by simp, hu, hbefore, .and hlast hk ihr⟩
  | factor _ ih => exact .factor ih
  | negation hw _ ih => exact (Says.negation hw ih).congr (Condition.holds_negation _).symm
  | comparison h => exact (Says.comparison h).congr (Condition.holds_comparison _).symm
  | group _ ih => exact (Says.group ih.says).congr (Condition.holds_group _).symm

theorem Writes.says {ts : List Token} {c : Condition} (h : Writes r ctx .condition ts c) :
    Says r ctx v .disjunction ts (c.Holds v) := h.meant.says

/-- The condition that the tokens of a part derive, with the meaning `P`. Those of a conjunction
derive one by themselves and one after any disjunction. -/
def Says.Derived (r : Registry) (ctx : QueryContext) (v : WrittenComparison → Prop) (ts : List Token)
    (P : Prop) : Part → Prop
  | .disjunction => ∃ c, Writes r ctx .condition ts c ∧ (c.Holds v ↔ P)
  | .conjunction =>
    (∃ c, Writes r ctx .condition ts c ∧ ¬(c.truth v).1 ∧ ((c.truth v).2 ↔ P)) ∧
    ∀ before w left, Writes r ctx .condition before left → Connective.ofWord? w = some .or →
      ∃ c, Writes r ctx .condition (before ++ .word w :: ts) c ∧ ((c.truth v).1 ↔ left.Holds v) ∧
        ((c.truth v).2 ↔ P)
  | .term => ∃ c, Writes r ctx .term ts c ∧ (c.Holds v ↔ P)
  | .factor => ∃ c, Writes r ctx .factor ts c ∧ (c.Holds v ↔ P)

theorem Says.derived {p : Part} {ts : List Token} {P : Prop} (h : Says r ctx v p ts P) :
    Derived r ctx v ts P p := by
  induction h with
  | comparison h => exact ⟨_, .comparison h, Condition.holds_comparison _⟩
  | group _ ih =>
    obtain ⟨c, hc, hP⟩ := ih
    exact ⟨_, .group hc, (Condition.holds_group c).trans hP⟩
  | factor _ ih =>
    obtain ⟨c, hc, hP⟩ := ih
    exact ⟨c, .factor hc, hP⟩
  | negation hw _ ih =>
    obtain ⟨c, hc, hP⟩ := ih
    exact ⟨_, .negation hw hc, (Condition.holds_negation c).trans (not_congr hP)⟩
  | term _ ih =>
    obtain ⟨c, hc, hP⟩ := ih
    have hfactor := hc.chained.2 nofun
    refine ⟨⟨c, .term hc, by simp [hfactor.truth_fst], hfactor.truth_snd.trans hP⟩, ?_⟩
    intro before w left hleft hw
    exact ⟨_, .join hleft hw hc, Iff.rfl, hP⟩
  | and _ hw _ ihl ihr =>
    obtain ⟨⟨c, hc, hnone, hP⟩, hafter⟩ := ihl
    obtain ⟨right, hright, hQ⟩ := ihr
    refine ⟨⟨_, .join hc hw hright, hnone, and_congr hP hQ⟩, ?_⟩
    intro before u left hleft hu
    obtain ⟨d, hd, hbefore, hlast⟩ := hafter before u left hleft hu
    have hjoin := Writes.join hd hw hright
    exact ⟨.join d .and right, by simpa using hjoin, hbefore, and_congr hlast hQ⟩
  | conjunction _ ih =>
    obtain ⟨⟨c, hc, hnone, hP⟩, _⟩ := ih
    exact ⟨c, hc, by simp [Condition.Holds, hnone, hP]⟩
  | or _ hw _ ihl ihr =>
    obtain ⟨left, hleft, hP⟩ := ihl
    obtain ⟨c, hc, hbefore, hlast⟩ := ihr.2 _ _ _ hleft hw
    exact ⟨c, hc, or_congr (hbefore.trans hP) hlast⟩

/-- Tokens that derive a condition mean what it means, and nothing else. -/
theorem Writes.says_iff {ts : List Token} {c : Condition} (h : Writes r ctx .condition ts c)
    {P : Prop} : Says r ctx v .disjunction ts P ↔ (P ↔ c.Holds v) := by
  constructor
  · intro hsays
    obtain ⟨d, hd, hP⟩ := hsays.derived
    have hsame := Condition.ofTokens_ok_iff.mpr hd
    rw [Condition.ofTokens_ok_iff.mpr h] at hsame
    cases hsame
    exact hP.symm
  · intro hP
    exact h.says.congr hP.symm

/-! ## Queries -/

/-- The canonical text of a condition written by hand is split into the tokens that it was written
with, but for the spelling of words, operators, references and operands. The body of its query means
what it means by itself, together with the scope of the context unless the condition is scoped. -/
theorem Condition.ofText_canonical (c : Compiler) (ctx : QueryContext) {text : String}
    {clause : Condition} (h : Condition.ofText c.registry ctx text = .ok clause) :
    ∃ tokens q, Token.ofText text = .ok tokens ∧
      Token.ofText clause.text = .ok clause.tokens ∧
      Rewrites c.registry ctx (dropWhere tokens) clause.tokens ∧
      c.compileText ctx text = .ok q ∧ Token.ofText q.body = .ok q.bodyTokens ∧
      ∀ v, ∃ P, (∀ P', Says c.registry ctx v .disjunction (dropWhere tokens) P' ↔ (P' ↔ P)) ∧
        ∀ Q, Reads v .disjunction q.bodyTokens Q ↔ (Q ↔ P ∧
          (clause.isScoped = false → v ⟨Reference.teamProject, .eq, [ctx.projectOperand]⟩)) := by
  obtain ⟨tokens, htokens, hwrites⟩ := Condition.ofText_ok_iff.mp h
  have hnumbers : ∀ t ∈ dropWhere tokens, t.IsNumbered :=
    fun t ht => Token.ofText_numbered htokens t (dropWhere_subset ht)
  have hquery : c.compileText ctx text = .ok (Query.make (ctx.scopeUnless clause.isScoped
      ++ [.group clause]) [OrderKey.default] (c.caps.effective none) {}) := by
    rw [Compiler.compileText, h]
    rfl
  have hwell := Compiler.compileText_wellFormed hquery
  refine ⟨tokens, _, htokens, (Condition.lexes (hwrites.spelled hnumbers)).ofText, hwrites.rewrites,
    hquery, hwell.ofText_body, fun v => ⟨clause.Holds v, fun P' => hwrites.says_iff, fun Q => ?_⟩⟩
  have hmeans : (∀ cond ∈ ctx.scopeUnless clause.isScoped ++ [.group clause], cond.Holds v) ↔
      clause.Holds v ∧
        (clause.isScoped = false → v ⟨Reference.teamProject, .eq, [ctx.projectOperand]⟩) := by
    rw [List.forall_mem_append, List.forall_mem_singleton, Condition.holds_group, and_comm,
      ← @scope_holds v ctx]
    cases clause.isScoped <;> simp [QueryContext.scopeUnless]
  rw [hwell.reads]
  exact iff_congr Iff.rfl hmeans

def newOrNotDone : String := "where [state] != 'New' or not [State] IN ('Done')"

def systemState : FieldDef := ⟨"System.State", .string⟩

/-- The field of states alone, found under its friendly name. -/
def stateCompiler : Compiler := ⟨⟨[], [("state", systemState)], [], []⟩, {}⟩

def newOrNotDoneTokens : List Token :=
  [.field "state", .symbol "!=", .literal "New", .word "or", .word "not", .field "State", .word "IN",
    .leftParen, .literal "Done", .rightParen]

theorem writes_newOrNotDone (ctx : QueryContext) :
    Writes stateCompiler.registry ctx .condition newOrNotDoneTokens
      (.join (.comparison ⟨systemState, .ne, [.text "New"]⟩) .or
        (.negation (.comparison ⟨systemState, .inList, [.text "Done"]⟩))) := by
  have hnew : WritesComparison stateCompiler.registry ctx
      [.field "state", .symbol "!=", .literal "New"] ⟨systemState, .ne, [.text "New"]⟩ :=
    @WritesComparison.mk stateCompiler.registry ctx "state" "System.State" systemState
      [.symbol "!="] .ne [.literal "New"] _ rfl rfl (.symbol rfl) rfl rfl
      (.cons (.literal rfl nofun rfl) .nil)
  have hdone : WritesComparison stateCompiler.registry ctx
      [.field "State", .word "IN", .leftParen, .literal "Done", .rightParen]
      ⟨systemState, .inList, [.text "Done"]⟩ :=
    @WritesComparison.mk stateCompiler.registry ctx "State" "System.State" systemState
      [.word "IN"] .inList [.literal "Done"] _ rfl rfl (Operator.spells .inList) rfl nofun
      (.cons (.literal rfl nofun rfl) .nil)
  exact .join (.term (.factor (.comparison hnew))) rfl (.negation rfl (.comparison hdone))

theorem ofText_canonical_newOrNotDone :
    ∃ clause, Condition.ofText stateCompiler.registry .default newOrNotDone = .ok clause ∧
      clause.text = "[System.State] <> 'New' OR NOT [System.State] IN ('Done')" ∧
      ∃ tokens, Token.ofText newOrNotDone = .ok tokens ∧
        Rewrites stateCompiler.registry .default (dropWhere tokens) clause.tokens := by
  have htokens : Token.ofText newOrNotDone = .ok (.word "where" :: newOrNotDoneTokens) := rfl
  have hof := Condition.ofText_ok_iff.mpr ⟨_, htokens, writes_newOrNotDone .default⟩
  obtain ⟨tokens, _, hsplit, _, hrewrites, _⟩ :=
    Condition.ofText_canonical stateCompiler .default hof
  exact ⟨_, hof, rfl, tokens, hsplit, hrewrites⟩

end WorkQuery
