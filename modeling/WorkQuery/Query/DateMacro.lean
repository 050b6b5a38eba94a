import WorkQuery.Calendar.DateText
import WorkQuery.Calendar.Quarter
import WorkQuery.Filter.Period
import WorkQuery.Query.Quote

/-!
# WorkQuery.Query.DateMacro

Dates that the store resolves, such as `@Today - 7`. A period that has no such form, a quarter, is
resolved to a day here.
-/

namespace WorkQuery

/-- The day that a macro starts from. -/
inductive DateAnchor where
  | today
  | startOfDay
  | startOfWeek
  | startOfMonth
  | startOfYear
  deriving DecidableEq, Repr

namespace DateAnchor

def all : List DateAnchor := [.today, .startOfDay, .startOfWeek, .startOfMonth, .startOfYear]

def token : DateAnchor → String
  | .today => "@Today"
  | .startOfDay => "@StartOfDay"
  | .startOfWeek => "@StartOfWeek"
  | .startOfMonth => "@StartOfMonth"
  | .startOfYear => "@StartOfYear"

/-- The anchor that the characters name after an at sign, in any case. -/
def ofLetters? (cs : List Char) : Option DateAnchor :=
  all.find? fun a => a.token.toList.map Char.toLower == '@' :: cs.map Char.toLower

end DateAnchor

/-- A shift by a number of units, forward or back. -/
structure DateShift where
  forward : Bool
  count : Nat
  deriving DecidableEq, Repr

/-- A date that the store resolves. -/
structure DateMacro where
  anchor : DateAnchor
  shift : Option DateShift
  deriving DecidableEq, Repr

namespace DateMacro

def text (m : DateMacro) : String :=
  match m.shift with
  | none => m.anchor.token
  | some s =>
    m.anchor.token ++ (if s.forward then " + " else " - ") ++ Numeral.natText s.count

/-- Most digits that a shift may have. -/
def maxDigits : Nat := 5

/-- A shift: a sign, then one to five digits, with blanks before each of them. -/
def readShift? (cs : List Char) : Option DateShift :=
  match cs.dropWhile Text.isBlank with
  | c :: rest =>
    if c = '+' ∨ c = '-' then
      let digits := rest.dropWhile Text.isBlank
      if digits.length ≤ maxDigits then
        (Numeral.readDigits? digits).map fun n => ⟨c = '+', n⟩
      else none
    else none
  | [] => none

/-- The macro that the characters spell, in any case and with any blanks around the sign. -/
def ofChars? (cs : List Char) : Option DateMacro :=
  match Text.trimChars cs with
  | '@' :: rest =>
    let letters := rest.takeWhile Char.isAlpha
    match DateAnchor.ofLetters? letters with
    | none => none
    | some anchor =>
      match rest.drop letters.length with
      | [] => some ⟨anchor, none⟩
      | tail => (readShift? tail).map fun shift => ⟨anchor, some shift⟩
  | _ => none

def ofText? (s : String) : Option DateMacro := ofChars? s.toList

end DateMacro

/-- A date in a query: a macro, or a day of the calendar. -/
inductive DateExpr where
  | relative (value : DateMacro)
  | day (date : Date)
  deriving DecidableEq

namespace DateExpr

def text : DateExpr → String
  | .relative m => m.text
  | .day d => Quote.literal d.text

end DateExpr

/-- The anchor moved back. -/
def DateAnchor.minus (a : DateAnchor) (count : Nat) : DateExpr := .relative ⟨a, some ⟨false, count⟩⟩

def DateAnchor.exactly (a : DateAnchor) : DateExpr := .relative ⟨a, none⟩

/-- The day at which the period begins. -/
def RelativePeriod.resolve (today : Date) : RelativePeriod → DateExpr
  | .today => DateAnchor.today.exactly
  | .yesterday => DateAnchor.today.minus 1
  | .startOfWeek => DateAnchor.startOfWeek.exactly
  | .startOfMonth => DateAnchor.startOfMonth.exactly
  | .startOfYear => DateAnchor.startOfYear.exactly
  | .lastYear => DateAnchor.startOfYear.minus 1
  | .lastDays n => DateAnchor.today.minus n
  | .lastWeeks n => DateAnchor.today.minus (7 * n)
  | .lastMonths n => DateAnchor.startOfMonth.minus n
  | .startOfQuarter => .day today.quarterStart
  | .lastQuarter => .day today.previousQuarterStart

end WorkQuery
