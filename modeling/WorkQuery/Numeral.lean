/-!
# WorkQuery.Numeral

Decimal numerals: the digits of a number, and the bounded whole numbers that a text may hold. Of
hexadecimal ones there is the value of a digit; the digit of a value is `Nat.digitChar`.
-/

namespace WorkQuery

-- Powers of natural numbers are those of the core library, whatever else is loaded.
instance (priority := 2000) powNat : Pow Nat Nat := instPowNat

namespace Numeral

/-- Decimal digits of a number, without leading zeros. -/
def digits (n : Nat) : List Char := Nat.toDigits 10 n

/-- Decimal digits, with zeros in front up to `width` characters. -/
def padded (width n : Nat) : List Char :=
  List.replicate (width - (digits n).length) '0' ++ digits n

def natText (n : Nat) : String := String.ofList (digits n)

/-- Decimal text of an integer; only negative numbers carry a sign. -/
def intText : Int → String
  | .ofNat n => natText n
  | .negSucc n => String.ofList ('-' :: digits (n + 1))

/-- The number that a nonempty run of ASCII digits writes. -/
def readDigits? (cs : List Char) : Option Nat :=
  if !cs.isEmpty && cs.all Char.isDigit then some (Nat.ofDigitChars 10 cs 0) else none

/-- A natural number up to `bound`; a plus sign may stand before it. -/
def readUpTo? (bound : Nat) (cs : List Char) : Option Nat :=
  let body := match cs with
    | '+' :: rest => rest
    | _ => cs
  match readDigits? body with
  | some n => if n ≤ bound then some n else none
  | none => none

def maxInt64 : Nat := 9223372036854775807

def maxUInt64 : Nat := 18446744073709551615

def maxUInt32 : Nat := 4294967295

/-- Whether a 64-bit signed number can hold the integer. -/
def isInt64 (n : Int) : Bool := -(maxInt64 + 1 : Int) ≤ n && n ≤ (maxInt64 : Int)

/-- A 64-bit signed number; a sign may stand before its digits. -/
def readInt64? (cs : List Char) : Option Int :=
  let value? : Option Int := match cs with
    | '-' :: rest => (readDigits? rest).map fun n => -(n : Int)
    | '+' :: rest => (readDigits? rest).map fun n => (n : Int)
    | _ => (readDigits? cs).map fun n => (n : Int)
  match value? with
  | some n => if isInt64 n then some n else none
  | none => none

/-- The leading digits, at most `limit` of them if one is given, as a number; then the rest. There
has to be one digit. -/
def scanNumber? (limit : Option Nat) (cs : List Char) : Option (Nat × List Char) :=
  let run := match limit with
    | some k => (cs.takeWhile Char.isDigit).take k
    | none => cs.takeWhile Char.isDigit
  if run.isEmpty then none
  else some (Nat.ofDigitChars 10 run 0, cs.drop run.length)

/-- Value of a hexadecimal digit, in either case. -/
def hexDigit? (c : Char) : Option Nat :=
  if c.isDigit then some (c.toNat - 48)
  else if 'a' ≤ c ∧ c ≤ 'f' then some (c.toNat - 87)
  else if 'A' ≤ c ∧ c ≤ 'F' then some (c.toNat - 55)
  else none

end Numeral
end WorkQuery
