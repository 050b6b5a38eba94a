import WorkQuery.Data.Basic
import WorkQuery.Decimal.Shortest
import WorkQuery.Text.Blank

/-!
# WorkQuery.Data.TomlPrinter

TOML text of a record: its values one to a line, then a table for each record within it. Lists of
two items or more have one item to a line. A string takes the first of the four forms that holds it
without an escape, if there is one.
-/

namespace WorkQuery
namespace Toml

/-- What the form of a string depends on. -/
structure StringShape where
  singleQuotes : Nat
  doubleQuotes : Nat
  hasControl : Bool
  hasBackslash : Bool
  hasNewline : Bool

/-- Length of the longest run of a character, after a run of `current` of them. -/
def longestRun (c : Char) : (current : Nat) → List Char → Nat
  | current, [] => current
  | current, d :: rest =>
    if d = c then longestRun c (current + 1) rest else max current (longestRun c 0 rest)

/-- Whether a character has to be escaped; neither a tab nor the end of a line has. -/
def isControl (c : Char) : Bool := (c.toNat < 0x20 && c != '\t' && c != '\n') || c.toNat == 0x7F

def StringShape.ofChars (cs : List Char) : StringShape where
  singleQuotes := longestRun '\'' 0 cs
  doubleQuotes := longestRun '"' 0 cs
  hasControl := cs.any isControl
  hasBackslash := cs.contains '\\'
  hasNewline := cs.contains '\n'

/-- A form of a string: between double or single quotes, on one line or on several. -/
structure StringForm where
  quote : Char
  several : Bool

def StringShape.form (s : StringShape) : StringForm :=
  if !s.hasControl && !s.hasBackslash && s.doubleQuotes == 0 && !s.hasNewline then ⟨'"', false⟩
  else if !s.hasControl && s.singleQuotes == 0 && !s.hasNewline then ⟨'\'', false⟩
  else if !s.hasControl && !s.hasBackslash && s.doubleQuotes ≤ 2 then ⟨'"', true⟩
  else if !s.hasControl && s.singleQuotes ≤ 2 then ⟨'\'', true⟩
  else ⟨'"', s.hasNewline⟩

/-- A character between double quotes, other than a double quote. -/
def escapedChar (several : Bool) (c : Char) : List Char :=
  if c.toNat = 8 then ['\\', 'b']
  else if c = '\t' then ['\\', 't']
  else if c = '\n' then if several then ['\n'] else ['\\', 'n']
  else if c.toNat = 12 then ['\\', 'f']
  else if c = '\r' then ['\\', 'r']
  else if c = '\\' then ['\\', '\\']
  else if isControl c then
    let digit (n : Nat) : Char := (Nat.digitChar n).toUpper
    ['\\', 'u', '0', '0', digit (c.toNat / 16), digit (c.toNat % 16)]
  else [c]

/-- A text between double quotes. Where the string has several lines, only every third of the double
quotes in a row is escaped; `run` counts those before that are not. -/
def escapedChars (several : Bool) : (run : Nat) → List Char → List Char
  | _, [] => []
  | run, c :: rest =>
    if c = '"' then
      if several && run < 2 then '"' :: escapedChars several (run + 1) rest
      else '\\' :: '"' :: escapedChars several 0 rest
    else escapedChar several c ++ escapedChars several 0 rest

/-- A string in the form that it takes. A string of several lines begins on a line of its own. -/
def stringChars (s : String) : List Char :=
  let cs := s.toList
  let shape := StringShape.ofChars cs
  let form := shape.form
  let quotes := List.replicate (if form.several then 3 else 1) form.quote
  let body := if form.quote = '"' then escapedChars form.several 0 cs else cs
  quotes ++ (if form.several && shape.hasNewline then ['\n'] else []) ++ body ++ quotes

/-- A floating-point number; a whole one has a zero after its point. -/
def floatChars : Binary64 → List Char
  | .nan => "nan".toList
  | .infinite false => "inf".toList
  | .infinite true => "-inf".toList
  | .finite negative mantissa exponent =>
    (Binary64.finite negative mantissa exponent).positionalText.toList
      ++ (if Binary64.isWhole mantissa exponent then ['.', '0'] else [])

mutual

/-- A value that is not a table of its own. -/
def valueChars : Data → List Char
  | .bool true => "true".toList
  | .bool false => "false".toList
  | .integer n => (Numeral.intText n).toList
  | .float x => floatChars x
  | .string s => stringChars s
  | .list [] => ['[', ']']
  | .list [item] => '[' :: valueChars item ++ [']']
  | .list items => '[' :: itemsChars items ++ ['\n', ']']
  | .record members => "\x7b ".toList ++ Text.joinChars [',', ' '] (membersChars members) ++ " \x7d".toList
  | .null | .unreadable => []

/-- Items, one to a line. -/
def itemsChars : List Data → List Char
  | [] => []
  | item :: rest => "\n    ".toList ++ valueChars item ++ [','] ++ itemsChars rest

/-- Members with their values; those without a value are left out. -/
def membersChars : List (String × Data) → List (List Char)
  | [] => []
  | (_, .null) :: rest => membersChars rest
  | (name, value) :: rest =>
    (name.toList ++ [' ', '=', ' '] ++ valueChars value) :: membersChars rest

end

/-- The members that are values. -/
def plainMembers (members : List (String × Data)) : List (String × Data) :=
  members.filter fun m => match m.2 with
    | .record _ => false
    | _ => true

/-- The values of a table, one to a line. -/
def linesChars (members : List (String × Data)) : List Char :=
  (membersChars (plainMembers members)).flatMap (· ++ ['\n'])

def headerChars (path : List String) : List Char :=
  '[' :: Text.joinChars ['.'] (path.map String.toList) ++ [']', '\n']

/-- The tables of a record below a path, each after an empty line. -/
def tablesChars (path : List String) : List (String × Data) → List Char
  | [] => []
  | (name, .record members) :: rest =>
    '\n' :: headerChars (path ++ [name]) ++ linesChars members
      ++ tablesChars (path ++ [name]) members ++ tablesChars path rest
  | _ :: rest => tablesChars path rest

end Toml

/-- TOML text of a record. -/
def Data.tomlText : Data → String
  | .record members => String.ofList (Toml.linesChars members ++ Toml.tablesChars [] members)
  | _ => ""

end WorkQuery
