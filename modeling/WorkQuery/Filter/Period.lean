import WorkQuery.Numeral
import WorkQuery.Text.Blank
import WorkQuery.Text.Lowercase

/-!
# WorkQuery.Filter.Period

Periods that end now, named by words such as `last_7_days`.
-/

namespace WorkQuery

/-- A period from some moment in the past until now. -/
inductive RelativePeriod where
  | today
  | yesterday
  | startOfWeek
  | startOfMonth
  | startOfYear
  | startOfQuarter
  | lastQuarter
  | lastYear
  | lastDays (count : Nat)
  | lastWeeks (count : Nat)
  /-- Counted from the start of a month. -/
  | lastMonths (count : Nat)
  deriving DecidableEq, Repr

namespace RelativePeriod

/-- Largest count of days, weeks or months. -/
def maxCount : Nat := 3650

/-- Canonical words. -/
def token : RelativePeriod → String
  | .today => "today"
  | .yesterday => "yesterday"
  | .startOfWeek => "start_of_week"
  | .startOfMonth => "start_of_month"
  | .startOfYear => "start_of_year"
  | .startOfQuarter => "start_of_quarter"
  | .lastQuarter => "last_quarter"
  | .lastYear => "last_year"
  | .lastDays n => "last_" ++ Numeral.natText n ++ "_days"
  | .lastWeeks n => "last_" ++ Numeral.natText n ++ "_weeks"
  | .lastMonths n => "last_" ++ Numeral.natText n ++ "_months"

/-- A count of units, from one on. -/
def counted? (count unit : String) : Option RelativePeriod :=
  match Numeral.readUpTo? Numeral.maxUInt32 count.toList with
  | some n =>
    if n = 0 ∨ maxCount < n then none
    else
      match unit with
      | "day" | "days" => some (.lastDays n)
      | "week" | "weeks" => some (.lastWeeks n)
      | "month" | "months" => some (.lastMonths n)
      | _ => none
  | none => none

/-- The period named by words in lowercase. -/
def ofWords? : List String → Option RelativePeriod
  | ["today"] => some .today
  | ["yesterday"] => some .yesterday
  | ["this", "week"] | ["start", "of", "week"] => some .startOfWeek
  | ["this", "month"] | ["start", "of", "month"] => some .startOfMonth
  | ["this", "year"] | ["start", "of", "year"] => some .startOfYear
  | ["this", "quarter"] | ["start", "of", "quarter"] => some .startOfQuarter
  | ["last", "quarter"] | ["previous", "quarter"] => some .lastQuarter
  | ["last", "year"] | ["previous", "year"] => some .lastYear
  | ["last", "week"] | ["past", "week"] | ["previous", "week"] => some (.lastWeeks 1)
  | ["last", "month"] | ["past", "month"] | ["previous", "month"] => some (.lastMonths 1)
  | ["last", count, unit] | ["past", count, unit] => counted? count unit
  | _ => none

/-- Whether the character stands between words. -/
def isSeparator (c : Char) : Bool := Text.isBlank c || c == '_' || c == '-'

/-- The period that a text names, in any case, with blanks, dashes or underscores between words. -/
def ofText? (s : String) : Option RelativePeriod :=
  let lowered := Text.lowerChars (Text.trimChars s.toList)
  ofWords? ((Text.splitNonempty isSeparator lowered).map String.ofList)

end RelativePeriod
end WorkQuery
