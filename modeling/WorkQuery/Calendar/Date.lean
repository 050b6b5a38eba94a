/-!
# WorkQuery.Calendar.Date

Dates of the proleptic Gregorian calendar, within a fixed range of years. That a date exists and is
in range is part of its type.
-/

namespace WorkQuery

/-- Earliest year that has dates. -/
def Date.minYear : Int := -262143

/-- Latest year that has dates. -/
def Date.maxYear : Int := 262142

def Date.isLeapYear (year : Int) : Bool :=
  year % 4 == 0 && (year % 100 != 0 || year % 400 == 0)

def Date.daysInMonth (year : Int) (month : Nat) : Nat :=
  if month == 2 then if Date.isLeapYear year then 29 else 28
  else if month == 4 || month == 6 || month == 9 || month == 11 then 30
  else 31

/-- Whether the calendar has this day. -/
def Date.occurs (year : Int) (month day : Nat) : Bool :=
  Date.minYear ≤ year && year ≤ Date.maxYear && 1 ≤ month && month ≤ 12
    && 1 ≤ day && day ≤ Date.daysInMonth year month

/-- A day of the calendar. -/
structure Date where
  year : Int
  month : Nat
  day : Nat
  valid : Date.occurs year month day = true
  deriving DecidableEq

namespace Date

/-- The date with these parts, if there is one. -/
def ofParts? (year : Int) (month day : Nat) : Option Date :=
  if h : Date.occurs year month day = true then some ⟨year, month, day, h⟩ else none

/-- Earlier in the calendar. -/
protected def lt (a b : Date) : Prop :=
  a.year < b.year ∨ (a.year = b.year ∧ (a.month < b.month ∨ (a.month = b.month ∧ a.day < b.day)))

instance : LT Date := ⟨Date.lt⟩

instance (a b : Date) : Decidable (Date.lt a b) := by
  unfold Date.lt; infer_instance

instance (a b : Date) : Decidable (a < b) := inferInstanceAs (Decidable (Date.lt a b))

instance : LE Date := ⟨fun a b => ¬ b < a⟩

instance (a b : Date) : Decidable (a ≤ b) := inferInstanceAs (Decidable (¬ b < a))

/-- The day after, unless the range ends here. -/
def next? (d : Date) : Option Date :=
  if d.day < daysInMonth d.year d.month then ofParts? d.year d.month (d.day + 1)
  else if d.month < 12 then ofParts? d.year (d.month + 1) 1
  else ofParts? (d.year + 1) 1 1

/-- The day before, unless the range begins here. -/
def prev? (d : Date) : Option Date :=
  if 1 < d.day then ofParts? d.year d.month (d.day - 1)
  else if 1 < d.month then ofParts? d.year (d.month - 1) (daysInMonth d.year (d.month - 1))
  else ofParts? (d.year - 1) 12 31

/-- A date that needs no today: the first day of 1970. -/
def epoch : Date := ⟨1970, 1, 1, by decide⟩

instance : Inhabited Date := ⟨epoch⟩

end Date
end WorkQuery
