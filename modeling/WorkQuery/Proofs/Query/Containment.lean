import WorkQuery.Proofs.Query.Given

/-!
# WorkQuery.Proofs.Query.Containment

No text that a query is made from gets out of the literal that holds it.

* `Condition.literalBodies_tokens`, `Query.body_no_statementWord`: literals and words of what is
  written. No word of it begins a part of a statement.
* `Compiler.given`, `QueryInput.added`: the literals that an input gives, and those besides.
* `Compiler.compileInput_contained`: the tokens of every query, and where each of its literals comes
  from.
-/

namespace WorkQuery

/-! ## Literals and words of tokens -/

def Token.literalBody? : Token → Option String
  | .literal body => some body
  | _ => none

/-- The bodies of the literals among tokens, in order. -/
def literalBodies (ts : List Token) : List String := ts.filterMap Token.literalBody?

@[simp] theorem literalBodies_append (ts us : List Token) :
    literalBodies (ts ++ us) = literalBodies ts ++ literalBodies us := List.filterMap_append ..

theorem literalBodies_cons {t : Token} (h : t.literalBody? = none) (ts : List Token) :
    literalBodies (t :: ts) = literalBodies ts := List.filterMap_cons_none h

theorem literalBodies_join {sep : List Token} (hsep : literalBodies sep = []) :
    ∀ pieces : List (List Token),
      literalBodies (joinTokens sep pieces) = pieces.flatMap literalBodies := by
  intro pieces
  induction pieces with
  | nil => rfl
  | cons ts more ih =>
    cases more with
    | nil => simp [joinTokens]
    | cons us more =>
      rw [joinTokens_cons_cons, literalBodies_append, literalBodies_append, hsep, ih]
      simp

theorem Operator.literalBodies_tokens (op : Operator) : literalBodies op.tokens = [] := by
  cases op <;> rfl

theorem Operator.literalBodies_operands (op : Operator) (ws : List WrittenValue) :
    literalBodies (op.operandTokens ws) = ws.flatMap fun w => literalBodies w.tokens := by
  unfold operandTokens
  split
  · have hclose : literalBodies [.rightParen] = [] := rfl
    rw [List.cons_append, literalBodies_cons rfl, literalBodies_append, literalBodies_join rfl,
      List.flatMap_map, hclose, List.append_nil]
  · induction ws with
    | nil => rfl
    | cons w ws ih => simp [ih]

theorem Value.literalBodies_tokens (v : Value) : literalBodies v.written.tokens = v.literals := by
  cases v with
  | relative m =>
    obtain ⟨anchor, shift⟩ := m
    cases shift <;> rfl
  | whole n => cases n <;> rfl
  | numeral s =>
    simp only [written]
    split <;> rfl
  | text _ | day _ | currentUser | currentProject | currentIteration | field _ => rfl

namespace Condition

theorem literalBodies_tokens (c : Condition) :
    literalBodies c.tokens = c.comparisons.flatMap Comparison.literals := by
  induction c with
  | comparison c =>
    have hvalues : literalBodies (c.written.operator.operandTokens c.written.operands)
        = c.literals := by
      rw [Comparison.written, Operator.literalBodies_operands, List.flatMap_map]
      simp only [Value.literalBodies_tokens]
      rfl
    rw [tokens, WrittenComparison.tokens, literalBodies_cons rfl, literalBodies_append,
      Operator.literalBodies_tokens, List.nil_append]
    simpa [comparisons] using hvalues
  | group inner ih =>
    have hclose : literalBodies [.rightParen] = [] := rfl
    rw [tokens, List.cons_append, literalBodies_cons rfl, literalBodies_append, hclose,
      List.append_nil, ih]
    rfl
  | negation inner ih =>
    rw [tokens, literalBodies_cons rfl, ih]
    rfl
  | join left k right ihl ihr =>
    rw [tokens, literalBodies_append, literalBodies_cons rfl, ihl, ihr]
    simp [comparisons]

end Condition

theorem Query.literalBodies_body (q : Query) :
    literalBodies q.bodyTokens
      = q.conditions.flatMap fun c => c.comparisons.flatMap Comparison.literals := by
  rw [bodyTokens, literalBodies_join rfl, List.flatMap_map]
  simp only [Condition.literalBodies_tokens]

def conditionWords : List String := ["AND", "OR", "NOT", "IN", "CONTAINS", "WORDS", "UNDER"]

/-- Tokens whose words are all among those of conditions. -/
def WordsKnown (ts : List Token) : Prop := ∀ w, .word w ∈ ts → w ∈ conditionWords

namespace WordsKnown

theorem append {ts us : List Token} (ht : WordsKnown ts) (hu : WordsKnown us) :
    WordsKnown (ts ++ us) := by
  intro w hw
  rcases List.mem_append.mp hw with hw | hw
  · exact ht w hw
  · exact hu w hw

theorem cons {t : Token} {ts : List Token} (ht : WordsKnown [t]) (hts : WordsKnown ts) :
    WordsKnown (t :: ts) := append ht hts

theorem word {w : String} (h : w ∈ conditionWords) : WordsKnown [.word w] := by
  intro u hu
  cases List.mem_singleton.mp hu
  exact h

theorem other {t : Token} (h : ∀ w, t ≠ .word w) : WordsKnown [t] := by
  intro w hw
  exact absurd (List.mem_singleton.mp hw).symm (h w)

theorem nil : WordsKnown [] := by intro w hw; cases hw

theorem value (w : WrittenValue) : WordsKnown w.tokens := by
  intro word hw
  cases w with
  | literal body => simp [WrittenValue.tokens] at hw
  | number negative digits => cases negative <;> simp [WrittenValue.tokens] at hw
  | named name shift =>
    rcases shift with _ | ⟨forward, digits⟩ <;>
      simp [WrittenValue.tokens, WrittenValue.signToken] at hw
  | field name => simp [WrittenValue.tokens] at hw

theorem operator (op : Operator) : WordsKnown op.tokens := by
  cases op with
  | eq | ne | gt | lt | ge | le => exact other (by simp)
  | inList | contains | under => exact word (by decide)
  | notInList | notContains | containsWords | notUnder =>
    exact (word (by decide)).cons (word (by decide))
  | notContainsWords => exact (word (by decide)).cons ((word (by decide)).cons (word (by decide)))

theorem operands (op : Operator) (ws : List WrittenValue) : WordsKnown (op.operandTokens ws) := by
  unfold Operator.operandTokens
  split
  · refine ((other (by simp)).cons (joinTokens_closed nil append (other (by simp)) ?_)).append
      (other (by simp))
    intro ts hts
    obtain ⟨w, _, rfl⟩ := List.mem_map.mp hts
    exact value w
  · intro word hw
    obtain ⟨w, _, hw⟩ := List.mem_flatMap.mp hw
    exact value w word hw

theorem condition (c : Condition) : WordsKnown c.tokens := by
  induction c with
  | comparison c => exact (other (by simp)).cons ((operator _).append (operands _ _))
  | group inner ih => exact ((other (by simp)).cons ih).append (other (by simp))
  | negation inner ih => exact (word (by decide)).cons ih
  | join left k right ihl ihr =>
    refine ihl.append ((word ?_).cons ihr)
    cases k <;> decide

theorem body (q : Query) : WordsKnown q.bodyTokens := by
  refine joinTokens_closed nil append (word (by decide)) ?_
  intro ts hts
  obtain ⟨c, _, rfl⟩ := List.mem_map.mp hts
  exact condition c

end WordsKnown

/-- No word of the conditions begins a part of a statement. -/
theorem Query.body_no_statementWord (q : Query) {w : String} (h : .word w ∈ q.bodyTokens) :
    isOneOf statementWords w = false := by
  have hall : ∀ w ∈ conditionWords, isOneOf statementWords w = false := by decide
  exact hall w (WordsKnown.body q w h)

/-! ## Queries -/

def Compiler.predicateLiterals (c : Compiler) (p : Predicate) : List (FieldDef × Literal) :=
  (c.registry.resolve? p.field).toList.flatMap fun field => p.value.literals.map (Prod.mk field)

/-- Literals that an input gives, in order and each with the field that it is compared with: those of
the predicates of a filter, or those among the tokens of a text. -/
def Compiler.given (c : Compiler) : QueryInput → List (FieldDef × Literal)
  | .filter f => f.predicates.flatMap c.predicateLiterals
  | .condition text =>
    match Token.ofText text with
    | .ok tokens => (comparedValues "" tokens).filterMap c.registry.given?
    | .error _ => []

/-- Literals that a query has besides: the days of a date window, and every search term without the
blanks around it, once for the title and once for the description. -/
def QueryInput.added (today : Date) : QueryInput → List String
  | .filter f =>
    (f.dateWindow.toList.flatMap fun w => (w.bounds today).flatMap fun b => b.2.literals)
      ++ f.freeTextTerms.flatMap fun t => [Quote.escape (Text.trim t), Quote.escape (Text.trim t)]
  | .condition _ => []

def conditionLiterals (cs : List Condition) : List String :=
  cs.flatMap fun c => c.comparisons.flatMap Comparison.literals

theorem conditionLiterals_append (cs ds : List Condition) :
    conditionLiterals (cs ++ ds) = conditionLiterals cs ++ conditionLiterals ds :=
  List.flatMap_append ..

theorem conditionLiterals_comparisons (cmps : List Comparison) :
    conditionLiterals (cmps.map .comparison) = cmps.flatMap Comparison.literals := by
  simp [conditionLiterals, List.flatMap_map, Condition.comparisons]

theorem conditionLiterals_ids (ids : List Nat) : conditionLiterals (idConditions ids) = [] := by
  unfold idConditions
  split
  · rfl
  · simp [conditionLiterals, Condition.comparisons, Comparison.literals, List.flatMap_map,
      Value.literals]

theorem conditionLiterals_scope (ctx : QueryContext) (pinned : Bool) :
    conditionLiterals (ctx.scopeUnless pinned)
      = if pinned then [] else ctx.project.toList.map Quote.escape := by
  obtain ⟨project, today⟩ := ctx
  cases pinned <;> cases project <;> rfl

theorem conditionLiterals_searches (terms : List String) :
    conditionLiterals (searchConditions terms)
      = terms.flatMap fun t => [Quote.escape (Text.trim t), Quote.escape (Text.trim t)] := by
  have hany : ∀ cs : List Condition, conditionLiterals (anyOf cs) = conditionLiterals cs := by
    intro cs
    rcases cs with _ | ⟨first, _ | ⟨second, rest⟩⟩
    · rfl
    · rfl
    · simp [anyOf, conditionLiterals, Condition.comparisons, Condition.chain_comparisons,
        List.flatMap_assoc]
  rw [searchConditions, hany]
  simp only [conditionLiterals, List.flatMap_map]
  rfl

namespace Compiler

variable {c : Compiler} {ctx : QueryContext}

theorem predicates_accounts {ps : List Predicate} {comparisons : List Comparison}
    (h : List.Forall₂ (Asks c ctx) ps comparisons) :
    Accounts ctx (ps.flatMap c.predicateLiterals) (comparisons.flatMap Comparison.literals) := by
  induction h with
  | nil => exact .nil
  | cons hp _ ih =>
    have hvalues := (Accounts.rendered hp.values).append ih
    simpa [predicateLiterals, hp.field, Comparison.literals] using hvalues

theorem compileText_accounts {text : String} {tokens : List Token} {clause : Condition}
    (htokens : Token.ofText text = .ok tokens)
    (h : Writes c.registry ctx .condition (dropWhere tokens) clause) :
    Accounts ctx (c.given (.condition text)) (clause.comparisons.flatMap Comparison.literals) := by
  obtain ⟨values, last, hvalues, haccounts⟩ := h.accounts "" [] ends_nil
  have hwhere : comparedValues "" (dropWhere tokens) = comparedValues "" tokens := by
    unfold dropWhere
    split
    · split <;> rfl
    · rfl
  rw [List.append_nil, hwhere] at hvalues
  have hlast : comparedValues last [] = [] := rfl
  rw [hlast, List.append_nil] at hvalues
  simpa only [given, htokens, hvalues] using haccounts

theorem Compiles.windowLiterals {f : ItemFilter} {q : Query} {comparisons windows : List Comparison}
    (h : Compiles c ctx f q comparisons windows) :
    windows.flatMap Comparison.literals
      = f.dateWindow.toList.flatMap fun w => (w.bounds ctx.today).flatMap fun b => b.2.literals := by
  rcases h.window with ⟨hw, rfl⟩ | ⟨w, field, hw, hbounds⟩
  · rw [hw]
    rfl
  · simp [hw, hbounds.comparisons, List.flatMap_map, Comparison.literals]

/-- The literals of a query besides the scope: what the given ones leave behind, and the added. -/
theorem compileInput_literals {input : QueryInput} {q : Query}
    (h : c.compileInput ctx input = .ok q) :
    ∃ pinned rest made, q.conditions = ctx.scopeUnless pinned ++ rest ∧
      Accounts ctx (c.given input) made ∧
      conditionLiterals rest = made ++ input.added ctx.today := by
  cases input with
  | filter f =>
    obtain ⟨comparisons, windows, hcompiles⟩ := compile_ok h
    refine ⟨_, _, _, hcompiles.conditions, predicates_accounts hcompiles.predicates, ?_⟩
    simp only [conditionLiterals_append, conditionLiterals_ids, conditionLiterals_comparisons,
      conditionLiterals_searches, hcompiles.windowLiterals, QueryInput.added, List.nil_append,
      List.append_assoc]
  | condition text =>
    obtain ⟨tokens, clause, htokens, hwrites, hconditions, _⟩ := compileText_ok h
    refine ⟨_, _, _, hconditions, compileText_accounts htokens hwrites, ?_⟩
    simp [conditionLiterals, Condition.comparisons, QueryInput.added]

/-- The tokens of a query are its fixed beginning, a body and its order. The body has no word that
begins a part of a statement, its parentheses are partners of each other, and its literals are, one
after another, the project if the scope of the context is added, what the given literals leave
behind, and what the compiler adds to that. -/
theorem compileInput_contained {input : QueryInput} {q : Query}
    (h : c.compileInput ctx input = .ok q) :
    Token.ofText q.text = .ok (Query.headTokens ++ q.bodyTokens ++ q.orderTokens) ∧
    (∀ w, .word w ∈ q.bodyTokens → isOneOf statementWords w = false) ∧
    checkBalance 0 q.bodyTokens = .ok () ∧
    ∃ pinned rest made,
      q.conditions = ctx.scopeUnless pinned ++ rest ∧
      Accounts ctx (c.given input) made ∧
      literalBodies q.bodyTokens
        = (if pinned then [] else ctx.project.toList.map Quote.escape) ++ made
          ++ input.added ctx.today := by
  obtain ⟨pinned, rest, made, hconditions, haccounts, hliterals⟩ := compileInput_literals h
  have hbody : literalBodies q.bodyTokens = conditionLiterals q.conditions := q.literalBodies_body
  refine ⟨(compileInput_wellFormed h).ofText_text, fun w => q.body_no_statementWord,
    q.bodyTokens_balanced.check, pinned, rest, made, hconditions, haccounts, ?_⟩
  rw [hbody, hconditions, conditionLiterals_append, conditionLiterals_scope, hliterals,
    List.append_assoc]

def crashes : ItemFilter := { freeTextTerms := [" can't start "] }

theorem compileInput_contained_crashes :
    ∃ q, standard.compileInput QueryContext.default (.filter crashes) = .ok q ∧
      Token.ofText q.text = .ok (Query.headTokens ++ q.bodyTokens ++ q.orderTokens) ∧
      checkBalance 0 q.bodyTokens = .ok () := by
  have hcontained := @compileInput_contained standard QueryContext.default (.filter crashes) _ rfl
  exact ⟨_, rfl, hcontained.1, hcontained.2.2.1⟩

/-- A search term stands in two literals. -/
theorem literalBodies_crashes :
    ∃ q, standard.compileInput QueryContext.default (.filter crashes) = .ok q ∧
      (literalBodies q.bodyTokens).count "can''t start" = 2 := by
  refine ⟨_, rfl, ?_⟩
  rw [Query.literalBodies_body]
  decide +kernel

end Compiler
end WorkQuery
