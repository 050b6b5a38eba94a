import WorkQuery.Decimal.Binary64
import WorkQuery.Numeral

/-!
# WorkQuery.Decimal.Reading

Decimal text read as the nearest binary floating-point number.
-/

namespace WorkQuery
namespace Binary64

/-- An exponent: an optional sign and at least one digit. -/
def readExponent? (cs : List Char) : Option Int :=
  match cs with
  | '-' :: rest => (Numeral.readDigits? rest).map fun n => -(n : Int)
  | '+' :: rest => (Numeral.readDigits? rest).map fun n => (n : Int)
  | _ => (Numeral.readDigits? cs).map fun n => (n : Int)

/-- Number without a sign: digits, perhaps a point among, before or after them, perhaps an
exponent. There has to be one digit. -/
def readMagnitude? (negative : Bool) (cs : List Char) : Option Binary64 :=
  let whole := cs.takeWhile Char.isDigit
  let rest := cs.drop whole.length
  let (fraction, rest) := match rest with
    | '.' :: tail =>
      let run := tail.takeWhile Char.isDigit
      (run, tail.drop run.length)
    | _ => ([], rest)
  let digits := whole ++ fraction
  if digits.isEmpty then none
  else
    let number (exponent : Int) : Binary64 :=
      ofDecimal negative (Nat.ofDigitChars 10 digits 0) (exponent - fraction.length)
    match rest with
    | [] => some (number 0)
    | c :: tail =>
      if c = 'e' ∨ c = 'E' then (readExponent? tail).map number else none

/-- The number that the whole text writes; a sign may stand in front, and an infinity or no number
may be named in letters of either case. -/
def ofChars? (cs : List Char) : Option Binary64 :=
  let (negative, body) := match cs with
    | '-' :: rest => (true, rest)
    | '+' :: rest => (false, rest)
    | _ => (false, cs)
  let word := String.ofList (body.map Char.toLower)
  if word = "inf" ∨ word = "infinity" then some (.infinite negative)
  else if word = "nan" then some .nan
  else readMagnitude? negative body

end Binary64
end WorkQuery
