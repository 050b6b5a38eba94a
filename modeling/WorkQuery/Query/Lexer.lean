import WorkQuery.Query.Error
import WorkQuery.Text.Numeric

/-!
# WorkQuery.Query.Lexer

Splitting of a text into tokens, one character at a time. What a character means depends on the
text before it only through a small state, so that the tokens of two texts one after the other are
those of the first and then those of the second read from the state that the first ends in.
-/

namespace WorkQuery

/-- What the characters read so far leave open. Characters of a token are kept last one first. -/
inductive LexState where
  /-- Between tokens. -/
  | between
  | inField (rev : List Char)
  | inLiteral (rev : List Char)
  /-- After a quote within a literal: the literal has ended unless another quote follows. -/
  | afterQuote (rev : List Char)
  | inWord (rev : List Char)
  | inNumber (rev : List Char)
  | inAtName (rev : List Char)
  | inSymbol (rev : List Char)
  deriving DecidableEq, Repr

namespace LexState

/-- Text of characters kept last one first. -/
def textOf (rev : List Char) : String := String.ofList rev.reverse

def isSymbolChar (c : Char) : Bool := c == '=' || c == '<' || c == '>' || c == '!'

def isWordStart (c : Char) : Bool := Text.isAlphabetic c || c == '_'

def isWordRest (c : Char) : Bool := Text.isAlphanumeric c || c == '_'

/-- A character between tokens: the tokens that it completes, and the state that it leaves. -/
def start (c : Char) : Except ConditionFault (List Token × LexState) :=
  if Text.isBlank c then .ok ([], .between)
  else if c = '[' then .ok ([], .inField [])
  else if c = '\'' then .ok ([], .inLiteral [])
  else if c = '(' then .ok ([.leftParen], .between)
  else if c = ')' then .ok ([.rightParen], .between)
  else if c = ',' then .ok ([.comma], .between)
  else if c = ';' then .error .separator
  else if isSymbolChar c then .ok ([], .inSymbol [c])
  else if c = '+' then .ok ([.symbol "+"], .between)
  else if c = '-' then .ok ([.symbol "-"], .between)
  else if c = '@' then .ok ([], .inAtName ['@'])
  else if c.isDigit then .ok ([], .inNumber [c])
  else if isWordStart c then .ok ([], .inWord [c])
  else .error (.unexpectedChar c)

/-- The tokens that the end of the text, or a character that does not belong to the open token,
completes. -/
def finish : LexState → Except ConditionFault (List Token)
  | .between => .ok []
  | .inField _ => .error .unterminatedReference
  | .inLiteral _ => .error .unterminatedLiteral
  | .afterQuote rev => .ok [.literal (textOf rev)]
  | .inWord rev => .ok [.word (textOf rev)]
  | .inNumber rev => .ok [.number (textOf rev)]
  | .inAtName rev => .ok [.atName (textOf rev)]
  | .inSymbol rev =>
    match Operator.ofText? (textOf rev) with
    | some _ => .ok [.symbol (textOf rev)]
    | none => .error (.unsupportedSymbol (textOf rev))

/-- The open token ends before the character. -/
def restart (s : LexState) (c : Char) : Except ConditionFault (List Token × LexState) :=
  match s.finish with
  | .error fault => .error fault
  | .ok done =>
    match start c with
    | .error fault => .error fault
    | .ok (tokens, next) => .ok (done ++ tokens, next)

/-- One character: the tokens that it completes, and the state that it leaves. -/
def step (s : LexState) (c : Char) : Except ConditionFault (List Token × LexState) :=
  match s with
  | .between => start c
  | .inField rev =>
    if c = ']' then .ok ([.field (textOf rev)], .between)
    else if c = '[' then .error .nestedBracket
    else .ok ([], .inField (c :: rev))
  | .inLiteral rev =>
    if c = '\'' then .ok ([], .afterQuote rev) else .ok ([], .inLiteral (c :: rev))
  | .afterQuote rev =>
    if c = '\'' then .ok ([], .inLiteral ('\'' :: '\'' :: rev)) else s.restart c
  | .inWord rev => if isWordRest c then .ok ([], .inWord (c :: rev)) else s.restart c
  | .inNumber rev =>
    if c.isDigit || c == '.' then .ok ([], .inNumber (c :: rev)) else s.restart c
  | .inAtName rev => if c.isAlphanum then .ok ([], .inAtName (c :: rev)) else s.restart c
  | .inSymbol rev => if isSymbolChar c then .ok ([], .inSymbol (c :: rev)) else s.restart c

/-- The tokens of a text read from a state. -/
def tokens (s : LexState) : List Char → Except ConditionFault (List Token)
  | [] => s.finish
  | c :: rest =>
    match s.step c with
    | .error fault => .error fault
    | .ok (done, next) =>
      match next.tokens rest with
      | .error fault => .error fault
      | .ok more => .ok (done ++ more)

end LexState

def Token.ofText (text : String) : Except ConditionFault (List Token) :=
  LexState.between.tokens text.toList

end WorkQuery
