import WorkQuery.Calendar.Date
import WorkQuery.Numeral
import WorkQuery.Text.Blank

/-!
# WorkQuery.Calendar.DateText

The written form of a date, year first, and its readers. A year from 0 to 9999 has four digits, any
other a sign and at least four. Readers are lenient: blanks may stand before a number, a year with
a sign may have any number of digits, and months and days may have one digit.
-/

namespace WorkQuery
namespace Date

def yearChars (year : Int) : List Char :=
  if 0 ≤ year ∧ year ≤ 9999 then Numeral.padded 4 year.toNat
  else if 0 ≤ year then '+' :: Numeral.padded 4 year.toNat
  else '-' :: Numeral.padded 4 (-year).toNat

/-- Written form, year first. -/
def toChars (d : Date) : List Char :=
  yearChars d.year ++ '-' :: Numeral.padded 2 d.month ++ '-' :: Numeral.padded 2 d.day

/-- Written form, year first. -/
def text (d : Date) : String := String.ofList d.toChars

/-- A year: without a sign at most four digits, with one any number of digits. -/
def scanYear? (cs : List Char) : Option (Int × List Char) :=
  match cs.dropWhile Text.isBlank with
  | '-' :: rest => (Numeral.scanNumber? none rest).map fun (n, rest) => (-(n : Int), rest)
  | '+' :: rest => (Numeral.scanNumber? none rest).map fun (n, rest) => ((n : Int), rest)
  | rest => (Numeral.scanNumber? (some 4) rest).map fun (n, rest) => ((n : Int), rest)

/-- A number of at most two digits, such as a month, a day or an hour. -/
def scanTwoDigits? (cs : List Char) : Option (Nat × List Char) :=
  Numeral.scanNumber? (some 2) (cs.dropWhile Text.isBlank)

/-- What follows the character `c`. -/
def scanChar? (c : Char) : List Char → Option (List Char)
  | d :: rest => if d = c then some rest else none
  | [] => none

/-- What follows the character `c`, before which blanks may stand if `spaced`. -/
def scanMark? (spaced : Bool) (c : Char) (cs : List Char) : Option (List Char) :=
  scanChar? c (if spaced then cs.dropWhile Text.isBlank else cs)

/-- Year, month and day with dashes between them; blanks may stand before the dashes if `spaced`. -/
def scanParts? (spaced : Bool) (cs : List Char) : Option ((Int × Nat × Nat) × List Char) := do
  let (year, cs) ← scanYear? cs
  let cs ← scanMark? spaced '-' cs
  let (month, cs) ← scanTwoDigits? cs
  let cs ← scanMark? spaced '-' cs
  let (day, cs) ← scanTwoDigits? cs
  return ((year, month, day), cs)

/-- The date that the whole text writes. -/
def ofChars? (cs : List Char) : Option Date :=
  match scanParts? false cs with
  | some ((year, month, day), []) => ofParts? year month day
  | _ => none

/-- The date that the whole text writes, where blanks may also stand before the dashes and at the
end. -/
def ofSpacedChars? (cs : List Char) : Option Date :=
  match scanParts? true cs with
  | some ((year, month, day), rest) =>
    if rest.all Text.isBlank then ofParts? year month day else none
  | none => none

end Date
end WorkQuery
