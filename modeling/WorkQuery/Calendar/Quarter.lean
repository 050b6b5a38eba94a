import WorkQuery.Calendar.Date

/-!
# WorkQuery.Calendar.Quarter

Calendar quarters: they begin in January, April, July and October.
-/

namespace WorkQuery
namespace Date

/-- First day of the quarter that the date lies in. -/
def quarterStart (d : Date) : Date :=
  (ofParts? d.year ((d.month - 1) / 3 * 3 + 1) 1).getD d

/-- The same day so many months earlier, or the last day of that month if it is shorter. -/
def monthsBefore? (d : Date) (months : Nat) : Option Date :=
  let index : Int := d.year * 12 + (d.month - 1 : Nat) - months
  let year := index.fdiv 12
  let month := (index.fmod 12).toNat + 1
  ofParts? year month (min d.day (daysInMonth year month))

/-- First day of the quarter before the one that the date lies in, if the calendar has it; else of
the quarter itself. -/
def previousQuarterStart (d : Date) : Date :=
  (d.quarterStart.monthsBefore? 3).getD d.quarterStart

end Date
end WorkQuery
