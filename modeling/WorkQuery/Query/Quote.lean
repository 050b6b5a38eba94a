import WorkQuery.Text.Blank
import WorkQuery.Numeral

/-!
# WorkQuery.Query.Quote

Text literals and field references in query text. A literal stands in single quotes and a quote
inside it is written twice; nothing else is changed. A reference stands in brackets.
-/

namespace WorkQuery
namespace Quote

/-- Every quote twice. -/
def escapeChars (cs : List Char) : List Char :=
  cs.flatMap fun c => if c = '\'' then ['\'', '\''] else [c]

def escape (s : String) : String := String.ofList (escapeChars s.toList)

/-- Every pair of quotes once. A quote that stands alone is an error, told by its byte position
counted from `position`. -/
def unescapeFrom (position : Nat) : List Char → Except Nat (List Char)
  | [] => .ok []
  | '\'' :: '\'' :: rest => (unescapeFrom (position + 2) rest).map ('\'' :: ·)
  | c :: rest =>
    if c = '\'' then .error position
    else (unescapeFrom (position + c.utf8Size) rest).map (c :: ·)

/-- The text whose escaped form this is, or the byte position of a quote that stands alone. -/
def unescape (s : String) : Except Nat String :=
  (unescapeFrom 0 s.toList).map String.ofList

/-- What is wrong with an escaped text that has a quote alone at that byte. -/
def loneQuoteMessage (position : Nat) : String :=
  "lone quote at byte " ++ Numeral.natText position

def literal (s : String) : String := "'" ++ escape s ++ "'"

/-- Why a reference cannot stand in brackets. -/
inductive ReferenceFault where
  | blank
  | bracket (reference : String)
  deriving DecidableEq, Repr

def ReferenceFault.message : ReferenceFault → String
  | .blank => "empty field reference"
  | .bracket reference => "field reference '" ++ reference ++ "' contains a bracket"

/-- The reference without surrounding blanks, if it can stand in brackets. -/
def checkReference (reference : String) : Except ReferenceFault String :=
  let bare := Text.trim reference
  if bare.toList.isEmpty then .error .blank
  else if bare.toList.any fun c => c == '[' || c == ']' then .error (.bracket bare)
  else .ok bare

/-- A reference in brackets, without surrounding blanks. -/
def bracketed (reference : String) : String := "[" ++ Text.trim reference ++ "]"

/-- The reference in brackets, if it can stand there. -/
def reference (r : String) : Except ReferenceFault String :=
  match checkReference r with
  | .ok _ => .ok (bracketed r)
  | .error fault => .error fault

end Quote
end WorkQuery
