import WorkQuery.Proofs.Query.Lexes
import WorkQuery.Query.Reader

/-!
# WorkQuery.Proofs.Query.Written

Conditions as tokens. A value, a comparison and a condition each have a list of tokens
(`WrittenValue.tokens`, `WrittenComparison.tokens`, `Condition.tokens`), and the query text of a
condition is split into exactly these (`Condition.lexes`), as is the text of a whole query
(`Query.ofText_text`). What a text may hold is in `Value.IsSpelled`: only numbers that are copied
from a text and references are restricted, texts are not.
-/

namespace WorkQuery

/-- A value as tokens write it. -/
inductive WrittenValue where
  /-- A literal with its body, which is still escaped. -/
  | literal (body : String)
  | number (negative : Bool) (digits : String)
  /-- A name with an at sign, perhaps moved forward or back by a number. -/
  | named (name : String) (shift : Option (Bool × String))
  | field (name : String)
  deriving DecidableEq

namespace WrittenValue

def signToken (forward : Bool) : Token := .symbol (if forward then "+" else "-")

def tokens : WrittenValue → List Token
  | .literal body => [.literal body]
  | .number false digits => [.number digits]
  | .number true digits => [.symbol "-", .number digits]
  | .named name none => [.atName name]
  | .named name (some (forward, digits)) => [.atName name, signToken forward, .number digits]
  | .field name => [.field name]

end WrittenValue

def Operator.tokens : Operator → List Token
  | .eq => [.symbol "="]
  | .ne => [.symbol "<>"]
  | .gt => [.symbol ">"]
  | .lt => [.symbol "<"]
  | .ge => [.symbol ">="]
  | .le => [.symbol "<="]
  | .inList => [.word "IN"]
  | .notInList => [.word "NOT", .word "IN"]
  | .contains => [.word "CONTAINS"]
  | .notContains => [.word "NOT", .word "CONTAINS"]
  | .containsWords => [.word "CONTAINS", .word "WORDS"]
  | .notContainsWords => [.word "NOT", .word "CONTAINS", .word "WORDS"]
  | .under => [.word "UNDER"]
  | .notUnder => [.word "NOT", .word "UNDER"]

/-- A comparison as tokens write it: the reference of a field, an operator and its operands. -/
structure WrittenComparison where
  reference : String
  operator : Operator
  operands : List WrittenValue
  deriving DecidableEq

def Operator.operandTokens (op : Operator) (operands : List WrittenValue) : List Token :=
  if op.takesList then
    .leftParen :: joinTokens [.comma] (operands.map WrittenValue.tokens) ++ [.rightParen]
  else operands.flatMap WrittenValue.tokens

def WrittenComparison.tokens (c : WrittenComparison) : List Token :=
  .field c.reference :: (c.operator.tokens ++ c.operator.operandTokens c.operands)

/-- A value as it is written in a query. -/
def Value.written : Value → WrittenValue
  | .text content => .literal (Quote.escape content)
  | .day date => .literal (Quote.escape date.text)
  | .relative m =>
    .named m.anchor.token (m.shift.map fun s => (s.forward, Numeral.natText s.count))
  | .whole (.ofNat n) => .number false (Numeral.natText n)
  | .whole (.negSucc n) => .number true (Numeral.natText (n + 1))
  | .numeral spelling =>
    match spelling.toList with
    | '-' :: digits => .number true (String.ofList digits)
    | _ => .number false spelling
  | .currentUser => .named "@Me" none
  | .currentProject => .named "@Project" none
  | .currentIteration => .named "@CurrentIteration" none
  | .field reference => .field (Text.trim reference)

def Comparison.written (c : Comparison) : WrittenComparison :=
  ⟨Text.trim c.field.reference, c.operator, c.values.map Value.written⟩

def Condition.tokens : Condition → List Token
  | .comparison c => c.written.tokens
  | .group inner => .leftParen :: inner.tokens ++ [.rightParen]
  | .negation inner => .word "NOT" :: inner.tokens
  | .join left k right => left.tokens ++ .word k.token :: right.tokens

/-! ## What can be written -/

/-- Without brackets, so that it can stand in brackets. -/
def BracketFree (s : String) : Prop := s.toList.all (fun c => c != '[' && c != ']') = true

/-- A value whose spelling is split into the tokens it is written with. -/
def Value.IsSpelled : Value → Prop
  | .numeral spelling =>
    IsNumberText spelling.toList ∨ ∃ digits, IsNumberText digits ∧ spelling.toList = '-' :: digits
  | .field reference => BracketFree (Text.trim reference)
  | _ => True

/-- A comparison that has as many values as its operator takes, all spelled. -/
structure Comparison.IsSpelled (c : Comparison) : Prop where
  reference : BracketFree (Text.trim c.field.reference)
  values : ∀ v ∈ c.values, v.IsSpelled
  nonempty : c.values ≠ []
  single : c.operator.takesList = false → c.values.length = 1

def Condition.comparisons : Condition → List Comparison
  | .comparison c => [c]
  | .group inner => inner.comparisons
  | .negation inner => inner.comparisons
  | .join left _ right => left.comparisons ++ right.comparisons

def Condition.IsSpelled (c : Condition) : Prop := ∀ cmp ∈ c.comparisons, cmp.IsSpelled

/-! ## Splitting what is written -/

theorem isNumberText_digits (n : Nat) : IsNumberText (Numeral.digits n) := by
  have hne : Numeral.digits n ≠ [] := Nat.toDigits_ne_nil
  have hall : ∀ c ∈ Numeral.digits n, c.isDigit = true := by
    intro c hc
    exact Nat.isDigit_of_mem_toDigits (by decide) (by decide) hc
  cases hd : Numeral.digits n with
  | nil => exact absurd hd hne
  | cons c cs =>
    rw [hd] at hall
    refine ⟨c, cs, rfl, hall c (by simp), ?_⟩
    rw [List.all_eq_true]
    intro d h
    simp [hall d (by simp [h])]

theorem lexes_natText (n : Nat) : Lexes (Numeral.digits n) [.number (Numeral.natText n)] :=
  lexes_number (isNumberText_digits n)

theorem lexes_anchor (a : DateAnchor) : Lexes a.token.toList [.atName a.token] := by
  cases a <;> exact lexes_atName (by decide)

theorem lexes_bracketed {reference : String} (h : BracketFree (Text.trim reference)) :
    Lexes (Quote.bracketed reference).toList [.field (Text.trim reference)] := by
  have := lexes_field h
  simpa [Quote.bracketed] using this

theorem Value.lexes {v : Value} (h : v.IsSpelled) : Lexes v.spelling.toList v.written.tokens := by
  cases v with
  | text content => exact lexes_literal content
  | day date => exact lexes_literal date.text
  | relative m =>
    obtain ⟨anchor, shift⟩ := m
    cases shift with
    | none => exact lexes_anchor anchor
    | some s =>
      obtain ⟨forward, count⟩ := s
      have hcount := lexes_natText count
      cases forward with
      | true =>
        have := (lexes_anchor anchor).space (Lexes.sign (.inl rfl) (lexes_nil.space hcount))
        simpa [Value.spelling, DateMacro.text, Value.written, WrittenValue.tokens,
          WrittenValue.signToken, Numeral.natText] using this
      | false =>
        have := (lexes_anchor anchor).space (Lexes.sign (.inr rfl) (lexes_nil.space hcount))
        simpa [Value.spelling, DateMacro.text, Value.written, WrittenValue.tokens,
          WrittenValue.signToken, Numeral.natText] using this
  | whole n =>
    cases n with
    | ofNat n =>
      have := lexes_natText n
      simpa only [Value.spelling, Numeral.intText, Numeral.natText, String.toList_ofList,
        Value.written, WrittenValue.tokens] using this
    | negSucc n =>
      have := Lexes.sign (.inr rfl) (lexes_natText (n + 1))
      simpa [Value.spelling, Numeral.intText, Value.written, WrittenValue.tokens] using this
  | numeral spelling =>
    rcases h with h | ⟨digits, hdigits, hs⟩
    · obtain ⟨c, cs, hs, hc, _⟩ := id h
      have hw : (Value.numeral spelling).written = .number false spelling := by
        simp only [Value.written, hs]
        split
        · rename_i _ heq
          cases heq
          exact absurd hc (by decide)
        · rfl
      have := lexes_number h
      rw [hw]
      simpa [Value.spelling, WrittenValue.tokens] using this
    · have := Lexes.sign (.inr rfl) (lexes_number hdigits)
      simpa [Value.spelling, Value.written, WrittenValue.tokens, hs] using this
  | currentUser => exact lexes_atName (by decide)
  | currentProject => exact lexes_atName (by decide)
  | currentIteration => exact lexes_atName (by decide)
  | field reference => exact lexes_bracketed h

theorem Operator.lexes (op : Operator) : Lexes op.token.toList op.tokens := by
  have hnot : Lexes ['N', 'O', 'T'] [.word "NOT"] := lexes_word rfl (by decide)
  have hin : Lexes ['I', 'N'] [.word "IN"] := lexes_word rfl (by decide)
  have hcontains : Lexes ['C', 'O', 'N', 'T', 'A', 'I', 'N', 'S'] [.word "CONTAINS"] :=
    lexes_word rfl (by decide)
  have hwords : Lexes ['W', 'O', 'R', 'D', 'S'] [.word "WORDS"] := lexes_word rfl (by decide)
  have hunder : Lexes ['U', 'N', 'D', 'E', 'R'] [.word "UNDER"] := lexes_word rfl (by decide)
  cases op with
  | eq | ne | gt | lt | ge | le => exact lexes_symbol rfl (by decide) rfl
  | inList => exact hin
  | notInList => exact hnot.space hin
  | contains => exact hcontains
  | notContains => exact hnot.space hcontains
  | containsWords => exact hcontains.space hwords
  | notContainsWords => exact hnot.space (hcontains.space hwords)
  | under => exact hunder
  | notUnder => exact hnot.space hunder

theorem lexes_commaList {α : Type} {text : α → List Char} {toTokens : α → List Token}
    (items : List α) (h : ∀ a ∈ items, Lexes (text a) (toTokens a)) :
    Lexes (Text.joinChars ", ".toList (items.map text)) (joinTokens [.comma] (items.map toTokens)) := by
  refine Lexes.join _ _ (fun ha hb => ?_) items h
  have := ha.comma hb
  simpa using this

theorem Comparison.lexes {c : Comparison} (h : c.IsSpelled) :
    Lexes c.text.toList c.written.tokens := by
  obtain ⟨field, op, values⟩ := c
  have hvalues : Lexes
      (if op.takesList then "(" ++ Text.join ", " (values.map Value.spelling) ++ ")"
        else Text.join "" (values.map Value.spelling)).toList
      (op.operandTokens (values.map Value.written)) := by
    cases hop : op.takesList with
    | true =>
      have := (lexes_commaList values fun v hv => Value.lexes (h.values v hv)).parens
      simpa [Operator.operandTokens, hop, Text.join, Function.comp_def] using this
    | false =>
      obtain ⟨v, rfl⟩ := List.length_eq_one_iff.mp (h.single hop)
      have := Value.lexes (h.values v (by simp))
      simpa [Operator.operandTokens, hop, Text.join, Text.joinChars] using this
  have := (lexes_bracketed h.reference).space (op.lexes.space hvalues)
  simpa [Comparison.text, Comparison.written, WrittenComparison.tokens] using this

/-- The query text of a condition is split into the tokens of the condition. -/
theorem Condition.lexes {c : Condition} (h : c.IsSpelled) : Lexes c.text.toList c.tokens := by
  induction c with
  | comparison c => exact Comparison.lexes (h c (by simp [comparisons]))
  | group inner ih =>
    have := (ih h).parens
    simpa [Condition.text, Condition.tokens] using this
  | negation inner ih =>
    have hnot : Lexes ['N', 'O', 'T'] [.word "NOT"] := lexes_word rfl (by decide)
    have := hnot.space (ih h)
    simpa [Condition.text, Condition.tokens] using this
  | join left k right ihl ihr =>
    have hl := ihl fun c hc => h c (by simp [comparisons, hc])
    have hr := ihr fun c hc => h c (by simp [comparisons, hc])
    have hk : Lexes k.token.toList [.word k.token] := by
      cases k <;> exact lexes_word rfl (by decide)
    have := hl.space (hk.space hr)
    simpa [Condition.text, Condition.tokens] using this

/-! ## Whole queries -/

def OrderKey.tokens (k : OrderKey) : List Token :=
  [.field (Text.trim k.reference), .word k.direction.token]

namespace Query

/-- What every query begins with: the columns, and where the conditions begin. -/
def headTokens : List Token :=
  .word "SELECT" :: joinTokens [.comma] (coreColumns.map fun c => [.field c])
    ++ [.word "FROM", .word "WorkItems", .word "WHERE"]

def bodyTokens (q : Query) : List Token :=
  joinTokens [.word "AND"] (q.conditions.map Condition.tokens)

def orderTokens (q : Query) : List Token :=
  .word "ORDER" :: .word "BY" :: joinTokens [.comma] (q.order.map OrderKey.tokens)

theorem lexes_body {q : Query} (h : ∀ c ∈ q.conditions, c.IsSpelled) :
    Lexes q.body.toList q.bodyTokens := by
  have hand : Lexes ['A', 'N', 'D'] [.word "AND"] := lexes_word rfl (by decide)
  have := Lexes.join " AND ".toList [.word "AND"] (fun ha hb => by
    have := ha.space (hand.space hb)
    simpa using this) q.conditions fun c hc => Condition.lexes (h c hc)
  simpa [body, bodyTokens, Text.join, Function.comp_def] using this

theorem coreColumns_bare : ∀ c ∈ coreColumns, Text.trim c = c ∧ BracketFree c := by
  unfold BracketFree
  decide +kernel

theorem lexes_columns :
    Lexes columnsText.toList (joinTokens [.comma] (coreColumns.map fun c => [.field c])) := by
  have hcolumn : ∀ c ∈ coreColumns, Lexes (Quote.bracketed c).toList [.field c] := by
    intro c hc
    obtain ⟨htrim, hfree⟩ := coreColumns_bare c hc
    have hbare : BracketFree (Text.trim c) := by rw [htrim]; exact hfree
    have := lexes_bracketed hbare
    rwa [htrim] at this
  have := lexes_commaList coreColumns hcolumn
  simpa [columnsText, Text.join, Function.comp_def] using this

theorem lexes_order {keys : List OrderKey} (h : ∀ k ∈ keys, BracketFree (Text.trim k.reference)) :
    Lexes (Text.join ", " (keys.map OrderKey.text)).toList
      (joinTokens [.comma] (keys.map OrderKey.tokens)) := by
  have hkey : ∀ k ∈ keys, Lexes k.text.toList k.tokens := by
    intro k hk
    have hdirection : Lexes k.direction.token.toList [.word k.direction.token] := by
      cases k.direction <;> exact lexes_word rfl (by decide)
    have := (lexes_bracketed (h k hk)).space hdirection
    simpa [OrderKey.text, OrderKey.tokens] using this
  have := lexes_commaList keys hkey
  simpa [Text.join, Function.comp_def] using this

/-- The text of a query is split into its fixed beginning, its conditions and its order. -/
theorem ofText_text {q : Query} (hc : ∀ c ∈ q.conditions, c.IsSpelled)
    (ho : ∀ k ∈ q.order, BracketFree (Text.trim k.reference)) :
    Token.ofText q.text = .ok (headTokens ++ q.bodyTokens ++ q.orderTokens) := by
  apply Lexes.ofText
  have hselect : Lexes "SELECT".toList [.word "SELECT"] := lexes_word rfl (by decide)
  have hfrom : Lexes "FROM".toList [.word "FROM"] := lexes_word rfl (by decide)
  have hitems : Lexes "WorkItems".toList [.word "WorkItems"] := lexes_word rfl (by decide)
  have hwhere : Lexes "WHERE".toList [.word "WHERE"] := lexes_word rfl (by decide)
  have horder : Lexes "ORDER".toList [.word "ORDER"] := lexes_word rfl (by decide)
  have hby : Lexes "BY".toList [.word "BY"] := lexes_word rfl (by decide)
  have htail := horder.space (hby.space (lexes_order ho))
  have := hselect.space (lexes_columns.space (hfrom.space (hitems.space (hwhere.space
    ((lexes_body hc).space htail)))))
  simpa [text, headTokens, orderTokens, orderText] using this

end Query
end WorkQuery
