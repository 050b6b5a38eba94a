import WorkQuery.Data.Basic
import WorkQuery.Decimal.Shortest

/-!
# WorkQuery.Data.JsonPrinter

JSON text of a value: on one line without blanks, or with one member or item to a line, indented by
two spaces. Quotes, backslashes and control characters are escaped, nothing else.
-/

namespace WorkQuery
namespace Data
namespace Json

/-- How a character stands within a string. -/
def escapeChar (c : Char) : List Char :=
  if c = '"' then ['\\', '"']
  else if c = '\\' then ['\\', '\\']
  else if c.toNat = 8 then ['\\', 'b']
  else if c.toNat = 12 then ['\\', 'f']
  else if c = '\n' then ['\\', 'n']
  else if c = '\r' then ['\\', 'r']
  else if c = '\t' then ['\\', 't']
  else if c.toNat < 0x20 then
    ['\\', 'u', '0', '0', Nat.digitChar (c.toNat / 16), Nat.digitChar (c.toNat % 16)]
  else [c]

/-- A string in quotes. -/
def stringChars (s : String) : List Char := '"' :: s.toList.flatMap escapeChar ++ ['"']

mutual

/-- Text on one line. -/
def chars : Data → List Char
  | .null => ['n', 'u', 'l', 'l']
  | .bool true => ['t', 'r', 'u', 'e']
  | .bool false => ['f', 'a', 'l', 's', 'e']
  | .integer n => (Numeral.intText n).toList
  | .float x => x.jsonText.toList
  | .string s => stringChars s
  | .list items => '[' :: itemsChars items ++ [']']
  | .record members => '{' :: membersChars members ++ ['}']
  | .unreadable => ['n', 'u', 'l', 'l']

def itemsChars : List Data → List Char
  | [] => []
  | [item] => chars item
  | item :: items => chars item ++ ',' :: itemsChars items

def membersChars : List (String × Data) → List Char
  | [] => []
  | [(name, value)] => stringChars name ++ ':' :: chars value
  | (name, value) :: members => stringChars name ++ ':' :: chars value ++ ',' :: membersChars members

end

/-- A line break and the indentation of a level. -/
def lineStart (level : Nat) : List Char := '\n' :: List.replicate (2 * level) ' '

mutual

/-- Text with one member or item to a line, at a level of indentation. -/
def prettyChars (level : Nat) : Data → List Char
  | .list [] => ['[', ']']
  | .list items => '[' :: prettyItems (level + 1) items ++ lineStart level ++ [']']
  | .record [] => ['{', '}']
  | .record members => '{' :: prettyMembers (level + 1) members ++ lineStart level ++ ['}']
  | .null => ['n', 'u', 'l', 'l']
  | .bool b => chars (.bool b)
  | .integer n => (Numeral.intText n).toList
  | .float x => x.jsonText.toList
  | .string s => stringChars s
  | .unreadable => ['n', 'u', 'l', 'l']

def prettyItems (level : Nat) : List Data → List Char
  | [] => []
  | [item] => lineStart level ++ prettyChars level item
  | item :: items => lineStart level ++ prettyChars level item ++ ',' :: prettyItems level items

def prettyMembers (level : Nat) : List (String × Data) → List Char
  | [] => []
  | [(name, value)] => lineStart level ++ stringChars name ++ ':' :: ' ' :: prettyChars level value
  | (name, value) :: members =>
    lineStart level ++ stringChars name ++ ':' :: ' ' :: prettyChars level value
      ++ ',' :: prettyMembers level members

end

mutual

/-- The value with the members of every object in order of their names. -/
def sorted : Data → Data
  | .list items => .list (sortedItems items)
  | .record members => .record ((sortedMembers members).mergeSort fun a b => a.1 ≤ b.1)
  | .null => .null
  | .bool b => .bool b
  | .integer n => .integer n
  | .float x => .float x
  | .string s => .string s
  | .unreadable => .unreadable

def sortedItems : List Data → List Data
  | [] => []
  | item :: items => sorted item :: sortedItems items

def sortedMembers : List (String × Data) → List (String × Data)
  | [] => []
  | (name, value) :: members => (name, sorted value) :: sortedMembers members

end

end Json

def jsonText (d : Data) : String := String.ofList (Json.chars d)

/-- JSON text with one member or item to a line. -/
def prettyJsonText (d : Data) : String := String.ofList (Json.prettyChars 0 d)

/-- The value with the members of every record in order of their names. -/
def sorted (d : Data) : Data := Json.sorted d

end Data
end WorkQuery
