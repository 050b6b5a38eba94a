import WorkQuery.Proofs.Outcome
import WorkQuery.Proofs.Query.Written

/-!
# WorkQuery.Proofs.Query.Grammar

The grammar of conditions written by hand, over tokens and apart from their reader:

    condition  := term ((AND | OR) term)*
    term       := NOT? factor
    factor     := '(' condition ')' | comparison
    comparison := field operator operands
    operands   := value | '(' value (',' value)* ')'      after IN and NOT IN

* `WrittenValue.Admits`: the value that a written one stands for, where the field admits it.
* `WritesComparison`, `Writes`: the condition that tokens derive. Fields have to resolve to a
  reference that can stand in brackets and operators have to apply to the type of their field.
-/

namespace WorkQuery

/-- The operator that tokens spell: a symbol, or operator words in any case. -/
inductive SpellsOperator : List Token → Operator → Prop where
  | symbol {s : String} {op : Operator} :
      Operator.ofText? s = some op → SpellsOperator [.symbol s] op
  | words {ws : List String} {op : Operator} :
      ws ≠ [] → (∀ w ∈ ws, isOneOf operatorWords w = true) →
      Operator.ofText? (Text.join " " ws) = some op → SpellsOperator (ws.map Token.word) op

def numberText (negative : Bool) (digits : String) : String :=
  if negative then "-" ++ digits else digits

def nameText (name : String) : Option (Bool × String) → String
  | none => name
  | some (forward, digits) => name ++ " " ++ (if forward then "+" else "-") ++ " " ++ digits

section

variable (r : Registry) (ctx : QueryContext)

/-- The value that a written value stands for after an operator, if the field admits it. -/
inductive WrittenValue.Admits (field : FieldDef) (op : Operator) : WrittenValue → Value → Prop where
  | literal {body text : String} {v : Value} :
      Quote.unescape body = .ok text → (op.isSearch = true → Text.isBlankText text = false) →
      (Literal.text text).render field ctx = .ok v → Admits field op (.literal body) v
  | integer {negative : Bool} {digits : String} {n : Int} {v : Value} :
      Numeral.readInt64? (numberText negative digits).toList = some n →
      (Literal.integer n).render field ctx = .ok v → Admits field op (.number negative digits) v
  | decimal {negative : Bool} {digits : String} :
      Numeral.readInt64? (numberText negative digits).toList = none →
      field.valueType = .integer →
      (Binary64.ofChars? (numberText negative digits).toList).isSome = true →
      Admits field op (.number negative digits) (.numeral (numberText negative digits))
  | named {name : String} {shift : Option (Bool × String)} {v : Value} :
      Value.ofAtName? (nameText name shift) = some v → v.suits field = true →
      Admits field op (.named name shift) v
  | field {name reference : String} {other : FieldDef} :
      r.resolve? name = some other → Quote.checkReference other.reference = .ok reference →
      Admits field op (.field name) (.field reference)

/-- Whether an operator takes so many operands. -/
def Operator.Takes (op : Operator) (ws : List WrittenValue) : Prop :=
  if op.takesList then ws ≠ [] else ws.length = 1

/-- The comparison that tokens derive. -/
inductive WritesComparison : List Token → Comparison → Prop where
  | mk {name bare : String} {field : FieldDef} {ops : List Token} {op : Operator}
      {ws : List WrittenValue} {vs : List Value} :
      r.resolve? name = some field → Quote.checkReference field.reference = .ok bare →
      SpellsOperator ops op → field.valueType.accepts op = true → op.Takes ws →
      List.Forall₂ (WrittenValue.Admits r ctx field op) ws vs →
      WritesComparison (.field name :: (ops ++ op.operandTokens ws)) ⟨field, op, vs⟩

inductive Production where
  | condition
  | term
  | factor

/-- The condition that tokens derive. -/
inductive Writes : Production → List Token → Condition → Prop where
  | term {ts : List Token} {c : Condition} : Writes .term ts c → Writes .condition ts c
  | join {ts us : List Token} {w : String} {k : Connective} {left right : Condition} :
      Writes .condition ts left → Connective.ofWord? w = some k → Writes .term us right →
      Writes .condition (ts ++ .word w :: us) (.join left k right)
  | factor {ts : List Token} {c : Condition} : Writes .factor ts c → Writes .term ts c
  | negation {ts : List Token} {w : String} {c : Condition} :
      Text.sameIgnoringCase w "NOT" = true → Writes .factor ts c →
      Writes .term (.word w :: ts) (.negation c)
  | comparison {ts : List Token} {c : Comparison} :
      WritesComparison r ctx ts c → Writes .factor ts (.comparison c)
  | group {ts : List Token} {c : Condition} :
      Writes .condition ts c → Writes .factor (.leftParen :: ts ++ [.rightParen]) (.group c)

end

variable {r : Registry} {ctx : QueryContext}

/-! ## First tokens -/

theorem WritesComparison.starts {ts : List Token} {c : Comparison}
    (h : WritesComparison r ctx ts c) : ∃ name more, ts = .field name :: more := by
  cases h
  exact ⟨_, _, rfl⟩

/-- A factor starts with a field or a parenthesis, and so with no word. -/
theorem Writes.factor_starts {ts : List Token} {c : Condition} (h : Writes r ctx .factor ts c) :
    (∃ name more, ts = .field name :: more) ∨ ∃ more, ts = .leftParen :: more := by
  cases h with
  | comparison h => exact .inl h.starts
  | group h => exact .inr ⟨_, rfl⟩

theorem Writes.ne_nil {p : Production} {ts : List Token} {c : Condition}
    (h : Writes r ctx p ts c) : ts ≠ [] := by
  induction h with
  | term _ ih => exact ih
  | join _ _ _ _ _ => simp
  | factor _ ih => exact ih
  | negation _ _ _ => simp
  | comparison h =>
    obtain ⟨name, more, rfl⟩ := h.starts
    simp
  | group _ _ => simp

end WorkQuery
