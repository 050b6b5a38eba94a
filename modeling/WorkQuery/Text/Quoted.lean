import WorkQuery.Text.Blank
import WorkQuery.Text.Printable

/-!
# WorkQuery.Text.Quoted

Texts between double quotes in a form that shows every character: what has no visible form of its
own is written by its number.
-/

namespace WorkQuery
namespace Text

/-- Hexadecimal digits of a number, in small letters. -/
def hexDigits (n : Nat) : List Char := Nat.toDigits 16 n

/-- How a character stands between the quotes. -/
def quotedChar (c : Char) : List Char :=
  if c = '"' then ['\\', '"']
  else if c = '\\' then ['\\', '\\']
  else if c = '\n' then ['\\', 'n']
  else if c = '\r' then ['\\', 'r']
  else if c = '\t' then ['\\', 't']
  else if c.toNat = 0 then ['\\', '0']
  else if isPrintable c then [c]
  else ['\\', 'u', '\x7b'] ++ hexDigits c.toNat ++ ['\x7d']

/-- The text between quotes. -/
def quoted (s : String) : String :=
  String.ofList ('"' :: s.toList.flatMap quotedChar ++ ['"'])

/-- Texts between quotes, in brackets. -/
def quotedList (items : List String) : String :=
  "[" ++ join ", " (items.map quoted) ++ "]"

end Text
end WorkQuery
