import WorkQuery.Decimal.Reading
import WorkQuery.Query.Compile
import WorkQuery.Query.Lexer

/-!
# WorkQuery.Query.Reader

Conditions written by hand. A text is read rather than trusted: its fields have to resolve, its
operators have to suit them, and its values are rendered as those of a filter are.

    condition  := term ((AND | OR) term)*
    term       := NOT? ( '(' condition ')' | comparison )
    comparison := field operator operand
    operand    := value | '(' value (',' value)* ')'      after IN and NOT IN
    value      := literal | [-] number | macro [(+ | -) number] | field

Nothing outside this grammar is accepted, so a text can neither end the statement nor extend it.
-/

namespace WorkQuery

/-- Words that begin a part of a statement. -/
def statementWords : List String := ["SELECT", "FROM", "ORDER", "ASOF", "MODE", "WHERE"]

/-- Words that operators are made of, in this store or elsewhere. -/
def operatorWords : List String :=
  ["NOT", "IN", "CONTAINS", "WORDS", "UNDER", "WAS", "EVER", "GROUP"]

/-- Whether the word is in the list, in any case. -/
def isOneOf (words : List String) (word : String) : Bool :=
  words.any fun w => Text.sameIgnoringCase w word

def malformed {α : Type} (fault : ConditionFault) : Except CompileError α :=
  .error (.malformed fault)

/-- What was found in place of what was looked for. -/
def unexpected {α : Type} (wanted : Expectation) : List Token → Except CompileError α
  | .word w :: _ =>
    if isOneOf statementWords w then
      malformed (.keyword (String.ofList (w.toList.map Char.toUpper)))
    else malformed (.unexpected wanted (some (.word w)))
  | token :: _ => malformed (.unexpected wanted (some token))
  | [] => malformed (.unexpected wanted none)

/-- The words at the start that operators are made of. -/
def leadingOperatorWords : List Token → List String
  | .word w :: rest => if isOneOf operatorWords w then w :: leadingOperatorWords rest else []
  | _ => []

/-- The operator after a field: a symbol, or as many operator words as follow. -/
def readOperator (field : FieldDef) (tokens : List Token) :
    Except CompileError (Operator × List Token) :=
  match tokens with
  | .symbol s :: rest =>
    match Operator.ofText? s with
    | some op => .ok (op, rest)
    | none => malformed (.unsupportedOperator s field.reference)
  | _ =>
    let words := leadingOperatorWords tokens
    if words.isEmpty then malformed (.missingOperator field.reference)
    else
      let phrase := Text.join " " words
      match Operator.ofText? phrase with
      | some op => .ok (op, tokens.drop words.length)
      | none => malformed (.unsupportedOperator phrase field.reference)

/-- Values that are named rather than written. -/
def namedValues : List Value := [.currentUser, .currentProject, .currentIteration]

/-- The value that a name with an at sign stands for. -/
def Value.ofAtName? (spelling : String) : Option Value :=
  match namedValues.find? fun v => Text.sameIgnoringCase v.spelling spelling with
  | some v => some v
  | none => (DateMacro.ofText? spelling).map .relative

/-- Whether the named value can stand for a value of the field. -/
def Value.suits (field : FieldDef) : Value → Bool
  | .currentUser => field.valueType == .identity
  | .currentProject => field.isTeamProject
  | .currentIteration => field.valueType == .treePath
  | _ => field.valueType == .dateTime

/-- The value of a number: a whole number as a literal, any other as it is written. -/
def readNumber (field : FieldDef) (ctx : QueryContext) (spelling : String) :
    Except CompileError Value :=
  match Numeral.readInt64? spelling.toList with
  | some n => (Literal.integer n).render field ctx
  | none =>
    if field.valueType == .integer && (Binary64.ofChars? spelling.toList).isSome then
      .ok (.numeral spelling)
    else .error (.invalidValue field.reference (.notOfType spelling field.valueType))

/-- The value of a name with an at sign. -/
def readAtName (field : FieldDef) (spelling : String) : Except CompileError Value :=
  match Value.ofAtName? spelling with
  | none => malformed (.unknownMacro spelling)
  | some value =>
    if value.suits field then .ok value
    else .error (.invalidValue field.reference (.unsuited value.spelling field.valueType))

def readValue (r : Registry) (ctx : QueryContext) (field : FieldDef) (op : Operator) :
    List Token → Except CompileError (Value × List Token)
  | .literal body :: rest =>
    match Quote.unescape body with
    | .error position => malformed (.loneQuote position)
    | .ok text =>
      if op.isSearch && Text.isBlankText text then
        .error (.invalidValue field.reference (.blankSearch op))
      else ((Literal.text text).render field ctx).map fun value => (value, rest)
  | .symbol "-" :: .number n :: rest =>
    (readNumber field ctx ("-" ++ n)).map fun value => (value, rest)
  | .symbol "-" :: rest => unexpected .numberAfterMinus rest
  | .number n :: rest => (readNumber field ctx n).map fun value => (value, rest)
  | .atName name :: .symbol sign :: .number n :: rest =>
    if sign = "+" ∨ sign = "-" then
      (readAtName field (name ++ " " ++ sign ++ " " ++ n)).map fun value => (value, rest)
    else (readAtName field name).map fun value => (value, .symbol sign :: .number n :: rest)
  | .atName name :: rest => (readAtName field name).map fun value => (value, rest)
  | .field name :: rest =>
    match r.resolve? name with
    | none => .error (.unknownField name)
    | some other =>
      match Quote.checkReference other.reference with
      | .ok reference => .ok (.field reference, rest)
      | .error fault => malformed (.reference fault)
  | tokens => unexpected (.valueAfter field.reference op) tokens

/-- The values of a list, from the first to the closing parenthesis. -/
def readValues (r : Registry) (ctx : QueryContext) (field : FieldDef) (op : Operator) :
    Nat → List Token → Except CompileError (List Value × List Token)
  | 0, _ => malformed .blank
  | fuel + 1, tokens => do
    let (value, rest) ← readValue r ctx field op tokens
    match rest with
    | .comma :: rest =>
      let (values, rest) ← readValues r ctx field op fuel rest
      return (value :: values, rest)
    | .rightParen :: rest => return ([value], rest)
    | rest => unexpected .listNext rest

/-- A comparison after the name of its field. -/
def readComparison (r : Registry) (ctx : QueryContext) (name : String) (tokens : List Token) :
    Except CompileError (Comparison × List Token) := do
  let field ← match r.resolve? name with
    | some field => pure field
    | none => throw (.unknownField name)
  match Quote.checkReference field.reference with
    | .ok _ => pure ()
    | .error fault => malformed (.reference fault)
  let (op, rest) ← readOperator field tokens
  if !field.valueType.accepts op then
    throw (.operatorMismatch field.reference op field.valueType)
  if op.takesList then
    match rest with
    | .leftParen :: rest =>
      let (values, rest) ← readValues r ctx field op (rest.length + 1) rest
      return (⟨field, op, values⟩, rest)
    | rest => unexpected (.listStart op) rest
  else
    let (value, rest) ← readValue r ctx field op rest
    return (⟨field, op, [value]⟩, rest)

/-- The connective that a word spells, in any case. -/
def Connective.ofWord? (w : String) : Option Connective :=
  if Text.sameIgnoringCase w "AND" then some .and
  else if Text.sameIgnoringCase w "OR" then some .or
  else none

/-- What follows the word NOT, if the tokens begin with it. -/
def afterNot? : List Token → Option (List Token)
  | .word w :: rest => if Text.sameIgnoringCase w "NOT" then some rest else none
  | _ => none

mutual

/-- A condition and what follows it. -/
def readCondition (r : Registry) (ctx : QueryContext) :
    Nat → List Token → Except CompileError (Condition × List Token)
  | 0, _ => malformed .blank
  | fuel + 1, tokens =>
    match readTerm r ctx fuel tokens with
    | .error e => .error e
    | .ok (first, rest) => readChain r ctx fuel first rest

/-- The terms that a condition goes on with. -/
def readChain (r : Registry) (ctx : QueryContext) :
    Nat → Condition → List Token → Except CompileError (Condition × List Token)
  | 0, _, _ => malformed .blank
  | fuel + 1, left, tokens =>
    match tokens with
    | .word w :: rest =>
      match Connective.ofWord? w with
      | some k =>
        match readTerm r ctx fuel rest with
        | .error e => .error e
        | .ok (right, rest) => readChain r ctx fuel (.join left k right) rest
      | none => .ok (left, tokens)
    | _ => .ok (left, tokens)

/-- A term: perhaps NOT, then a group or a comparison. -/
def readTerm (r : Registry) (ctx : QueryContext) :
    Nat → List Token → Except CompileError (Condition × List Token)
  | 0, _ => malformed .blank
  | fuel + 1, tokens =>
    match afterNot? tokens with
    | some rest => (readFactor r ctx fuel rest).map fun (inner, rest) => (.negation inner, rest)
    | none => readFactor r ctx fuel tokens

/-- A group or a comparison. -/
def readFactor (r : Registry) (ctx : QueryContext) :
    Nat → List Token → Except CompileError (Condition × List Token)
  | 0, _ => malformed .blank
  | fuel + 1, tokens =>
    match tokens with
    | .leftParen :: rest =>
      match readCondition r ctx fuel rest with
      | .error e => .error e
      | .ok (inner, .rightParen :: rest) => .ok (.group inner, rest)
      | .ok (_, rest) => unexpected .groupEnd rest
    | .field name :: rest =>
      (readComparison r ctx name rest).map fun (c, rest) => (.comparison c, rest)
    | rest => unexpected .fieldOrGroup rest

end

/-- Fails unless every parenthesis has its partner; `depth` of them are open. -/
def checkBalance : Nat → List Token → Except CompileError Unit
  | depth, .leftParen :: rest => checkBalance (depth + 1) rest
  | 0, .rightParen :: _ => malformed .unbalancedClose
  | depth + 1, .rightParen :: rest => checkBalance depth rest
  | depth, _ :: rest => checkBalance depth rest
  | 0, [] => .ok ()
  | _ + 1, [] => malformed .unbalancedOpen

/-- The tokens without the word WHERE at their start. -/
def dropWhere : List Token → List Token
  | .word w :: rest => if Text.sameIgnoringCase w "WHERE" then rest else .word w :: rest
  | tokens => tokens

def Condition.ofTokens (r : Registry) (ctx : QueryContext) (tokens : List Token) :
    Except CompileError Condition := do
  if tokens.isEmpty then malformed .blank
  checkBalance 0 tokens
  match ← readCondition r ctx (4 * tokens.length + 4) tokens with
  | (condition, []) => return condition
  | (_, rest) => unexpected .conditionEnd rest

/-- The condition that a text writes; the word WHERE may stand in front. -/
def Condition.ofText (r : Registry) (ctx : QueryContext) (text : String) :
    Except CompileError Condition := do
  match Token.ofText text with
  | .error fault => malformed fault
  | .ok tokens => Condition.ofTokens r ctx (dropWhere tokens)

namespace Compiler

/-- The query for a condition written by hand. -/
def compileText (c : Compiler) (ctx : QueryContext) (text : String) : Except CompileError Query := do
  let condition ← Condition.ofText c.registry ctx text
  let conditions := if condition.isScoped then [] else [ctx.scope]
  return Query.make (conditions ++ [.group condition]) [OrderKey.default] (c.caps.effective none) {}

end Compiler

/-- The two shapes in which a query can be asked for. -/
inductive QueryInput where
  | filter (f : ItemFilter)
  | condition (text : String)

/-- The query for an input of either shape. -/
def Compiler.compileInput (c : Compiler) (ctx : QueryContext) : QueryInput →
    Except CompileError Query
  | .filter f => c.compile ctx f
  | .condition text => c.compileText ctx text

end WorkQuery
