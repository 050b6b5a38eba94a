/-!
# WorkQuery.Query.Token

Tokens of the condition of a query.
-/

namespace WorkQuery

inductive Token where
  /-- A reference, without its brackets. -/
  | field (name : String)
  /-- A text literal, still escaped and without its quotes. -/
  | literal (body : String)
  | word (text : String)
  | number (text : String)
  /-- A name that begins with an at sign. -/
  | atName (text : String)
  | symbol (text : String)
  | leftParen
  | rightParen
  | comma
  deriving DecidableEq, Repr

/-- How the token is named in a message. -/
def Token.describe : Token → String
  | .field name => "[" ++ name ++ "]"
  | .literal body => "'" ++ body ++ "'"
  | .word text | .number text | .atName text | .symbol text => "'" ++ text ++ "'"
  | .leftParen => "'('"
  | .rightParen => "')'"
  | .comma => "','"

end WorkQuery
