import WorkQuery.Calendar.DateText

/-!
# WorkQuery.Calendar.Timestamp

Moments in universal time, to the nanosecond. A leap second is the second of the day before it with
a full second of nanoseconds on top. Times with an offset are read and moved to universal time.
-/

namespace WorkQuery

/-- A moment in universal time. -/
structure Timestamp where
  date : Date
  /-- Seconds since midnight. -/
  second : Nat
  /-- Nanoseconds; a thousand million or more within a leap second. -/
  nano : Nat
  deriving DecidableEq

namespace Timestamp

/-- Seconds in a day without leap seconds. -/
def secondsPerDay : Nat := 86400

def nanosPerSecond : Nat := 1000000000

/-- A time of day as read: hour, minute, second and nanosecond. -/
structure Clock where
  hour : Nat
  minute : Nat
  second : Nat
  nano : Nat

/-- The time of day, as seconds since midnight and nanoseconds, if its parts are in range. The
second may be 60, a leap second. -/
def Clock.resolve? (c : Clock) : Option (Nat × Nat) :=
  if c.hour ≤ 23 ∧ c.minute ≤ 59 ∧ c.second ≤ 60 then
    if c.second = 60 then some (c.hour * 3600 + c.minute * 60 + 59, nanosPerSecond + c.nano)
    else some (c.hour * 3600 + c.minute * 60 + c.second, c.nano)
  else none

/-- The moment at which clocks `offset` seconds ahead of universal time show this time. -/
def ofLocal? (date : Date) (second nano : Nat) (offset : Int) : Option Timestamp :=
  let shifted : Int := second - offset
  if shifted < 0 then
    (date.prev?).map fun day => ⟨day, (shifted + secondsPerDay).toNat, nano⟩
  else if shifted < secondsPerDay then some ⟨date, shifted.toNat, nano⟩
  else (date.next?).map fun day => ⟨day, (shifted - secondsPerDay).toNat, nano⟩

/-- Fraction of a second in nanoseconds; digits past the ninth are read over. -/
def scanFraction? (cs : List Char) : Option (Nat × List Char) :=
  let run := cs.takeWhile Char.isDigit
  if run.isEmpty then none
  else
    let kept := run.take 9
    some (Nat.ofDigitChars 10 kept 0 * 10 ^ (9 - kept.length), cs.drop run.length)

/-- A fraction after a point, or no fraction. -/
def scanOptionalFraction? (cs : List Char) : Option (Nat × List Char) :=
  match cs with
  | '.' :: rest => scanFraction? rest
  | _ => some (0, cs)

def scanExact? (count : Nat) (cs : List Char) : Option (Nat × List Char) :=
  let run := cs.take count
  if run.length = count ∧ run.all Char.isDigit then
    some (Nat.ofDigitChars 10 run 0, cs.drop count)
  else none

/-- Offset from universal time in seconds: `Z`, or a sign, hours, a separator and minutes.
`separator` drops what may stand between hours and minutes. -/
def scanOffset? (separator : List Char → Option (List Char)) (cs : List Char) :
    Option (Int × List Char) :=
  let signed (negative : Bool) (cs : List Char) : Option (Int × List Char) := do
    let (hours, cs) ← scanExact? 2 cs
    let cs ← separator cs
    let (minutes, cs) ← scanExact? 2 cs
    if minutes ≤ 59 then
      let seconds : Int := (hours * 3600 + minutes * 60 : Nat)
      return (if negative then -seconds else seconds, cs)
    else none
  match cs with
  | 'Z' :: rest => some (0, rest)
  | 'z' :: rest => some (0, rest)
  | '+' :: rest => signed false rest
  | '-' :: rest => signed true rest
  | '−' :: rest => signed true rest
  | _ => none

/-- Whether the character divides a date from a time. -/
def isDateTimeMark (c : Char) : Bool := c == 'T' || c == 't' || c == ' '

/-- The local day of a strict date and time with an offset, such as `2024-05-15T10:00:00+02:00`. -/
def strictLocalDate? (cs : List Char) : Option Date := do
  let (year, cs) ← scanExact? 4 cs
  let cs ← Date.scanChar? '-' cs
  let (month, cs) ← scanExact? 2 cs
  let cs ← Date.scanChar? '-' cs
  let (day, cs) ← scanExact? 2 cs
  let (mark, cs) ← cs.head?.map fun c => (c, cs.tail)
  if !isDateTimeMark mark then none
  let (hour, cs) ← scanExact? 2 cs
  let cs ← Date.scanChar? ':' cs
  let (minute, cs) ← scanExact? 2 cs
  let cs ← Date.scanChar? ':' cs
  let (second, cs) ← scanExact? 2 cs
  let (nano, cs) ← scanOptionalFraction? cs
  let (offset, cs) ← scanOffset? (Date.scanChar? ':') cs
  if !cs.isEmpty || secondsPerDay ≤ offset.natAbs then none
  let date ← Date.ofParts? year month day
  let _ ← Clock.resolve? ⟨hour, minute, second, nano⟩
  return date

/-- Hour, minute and second with colons between them; blanks may stand before a number, and before
a colon if `spaced`. -/
def scanClock? (spaced : Bool) (cs : List Char) : Option ((Nat × Nat × Nat) × List Char) := do
  let (hour, cs) ← Date.scanTwoDigits? cs
  let cs ← Date.scanMark? spaced ':' cs
  let (minute, cs) ← Date.scanTwoDigits? cs
  let cs ← Date.scanMark? spaced ':' cs
  let (second, cs) ← Date.scanTwoDigits? cs
  return ((hour, minute, second), cs)

/-- The day of a date and time without an offset, such as `2024-05-15T10:00:00`. -/
def floatingDate? (cs : List Char) : Option Date := do
  let ((year, month, day), cs) ← Date.scanParts? false cs
  let cs ← Date.scanChar? 'T' cs
  let ((hour, minute, second), cs) ← scanClock? false cs
  if !cs.isEmpty then none
  let date ← Date.ofParts? year month day
  let _ ← Clock.resolve? ⟨hour, minute, second, 0⟩
  return date

/-- Offset of a leniently written moment: also the letters `UTC`, and colons or blanks in any
number between hours and minutes. -/
def scanLenientOffset? (cs : List Char) : Option (Int × List Char) :=
  if (cs.take 3).map Char.toLower = ['u', 't', 'c'] then some (0, cs.drop 3)
  else scanOffset? (fun rest => some (rest.dropWhile fun c => c == ':' || Text.isBlank c)) cs

/-- The moment that the whole text writes, as a date, a time and an offset in lenient form. -/
def ofChars? (cs : List Char) : Option Timestamp := do
  let ((year, month, day), cs) ← Date.scanParts? true cs
  let (mark, cs) ← cs.head?.map fun c => (c, cs.tail)
  if !isDateTimeMark mark then none
  let ((hour, minute, second), cs) ← scanClock? true cs
  let (nano, cs) ← scanOptionalFraction? cs
  let (offset, cs) ← scanLenientOffset? (cs.dropWhile Text.isBlank)
  if !cs.all Text.isBlank || secondsPerDay ≤ offset.natAbs then none
  let date ← Date.ofParts? year month day
  let (seconds, nano) ← Clock.resolve? ⟨hour, minute, second, nano⟩
  ofLocal? date seconds nano offset

/-- Fraction of a second: none, or three, six or nine digits, whichever is enough. -/
def fractionChars (nano : Nat) : List Char :=
  if nano = 0 then []
  else if nano % 1000000 = 0 then '.' :: Numeral.padded 3 (nano / 1000000)
  else if nano % 1000 = 0 then '.' :: Numeral.padded 6 (nano / 1000)
  else '.' :: Numeral.padded 9 nano

/-- Written form, such as `2024-05-15T10:00:00Z`; a leap second is second 60. -/
def text (t : Timestamp) : String :=
  let leap := nanosPerSecond ≤ t.nano
  let second := t.second % 60 + if leap then 1 else 0
  let nano := if leap then t.nano - nanosPerSecond else t.nano
  String.ofList (t.date.toChars ++ 'T' :: Numeral.padded 2 (t.second / 3600)
    ++ ':' :: Numeral.padded 2 (t.second / 60 % 60) ++ ':' :: Numeral.padded 2 second
    ++ fractionChars nano ++ ['Z'])

end Timestamp
end WorkQuery
