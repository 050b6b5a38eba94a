import WorkQuery.Query.DateMacro
import Mathlib.Order.Bounds.Defs
import Mathlib.Order.Defs.LinearOrder

/-!
# WorkQuery.Proofs.Calendar.Quarters

The days on which quarters begin, over the whole calendar.

Dates are in a linear order. Quarters are numbered through all years (`Date.quarterNumber`), and
a day on which a quarter begins is not after a date exactly if its number is not greater
(`Date.BeginsQuarter.le_iff`): so each statement about such days is one about these numbers.

* `Date.isGreatest_quarterStart`: the start of a quarter is the latest such day up to a date.
* `Date.BeginsQuarter.monthsBefore?_three`: three months before such a day the quarter before begins,
  unless the calendar begins with the day itself.
* `Date.quarterStart_isLatest`: both, and what the last quarter is resolved to.
-/

namespace WorkQuery
namespace Date

variable {a b d q : Date}

/-! ## The order of dates -/

theorem le_iff : a ≤ b ↔ a.year < b.year ∨
    (a.year = b.year ∧ (a.month < b.month ∨ (a.month = b.month ∧ a.day ≤ b.day))) := by
  show ¬(b.year < a.year ∨
    (b.year = a.year ∧ (b.month < a.month ∨ (b.month = a.month ∧ b.day < a.day)))) ↔ _
  omega

instance : LinearOrder Date where
  le_refl a := le_iff.mpr (by omega)
  le_trans a b c hab hbc := by
    rw [le_iff] at hab hbc ⊢
    omega
  le_antisymm a b hab hba := by
    rw [le_iff] at hab hba
    obtain ⟨year, month, day, _⟩ := a
    obtain ⟨year', month', day', _⟩ := b
    obtain ⟨rfl, rfl, rfl⟩ : year = year' ∧ month = month' ∧ day = day' := by
      simp only [] at hab hba
      omega
    rfl
  le_total a b := by
    rw [le_iff, le_iff]
    omega
  lt_iff_le_not_ge a b := by
    show (a.year < b.year ∨
      (a.year = b.year ∧ (a.month < b.month ∨ (a.month = b.month ∧ a.day < b.day)))) ↔ _
    rw [le_iff, le_iff]
    omega
  toDecidableLE := inferInstance
  toDecidableLT := inferInstance

/-! ## Parts of dates -/

theorem one_le_daysInMonth (year : Int) (month : Nat) : 1 ≤ daysInMonth year month := by
  unfold daysInMonth
  repeat' split
  all_goals omega

theorem occurs_first_iff {year : Int} {month : Nat} : occurs year month 1 = true ↔
    minYear ≤ year ∧ year ≤ maxYear ∧ 1 ≤ month ∧ month ≤ 12 := by
  simp [occurs, one_le_daysInMonth, and_assoc]

theorem range (d : Date) :
    minYear ≤ d.year ∧ d.year ≤ maxYear ∧ 1 ≤ d.month ∧ d.month ≤ 12 ∧ 1 ≤ d.day := by
  have h := d.valid
  simp only [occurs, Bool.and_eq_true, decide_eq_true_eq] at h
  omega

/-! ## Quarters by number -/

/-- The number of the quarter that the date lies in, counted from the year 0. -/
def quarterNumber (d : Date) : Int := 4 * d.year + ((d.month - 1) / 3 : Nat)

/-- The first day of January, April, July or October. -/
def BeginsQuarter (d : Date) : Prop := d.day = 1 ∧ d.month ∈ [1, 4, 7, 10]

theorem beginsQuarter_iff :
    d.BeginsQuarter ↔ d.day = 1 ∧ d.month = (d.month - 1) / 3 * 3 + 1 := by
  have h := d.range
  simp only [BeginsQuarter, List.mem_cons, List.not_mem_nil, or_false]
  omega

theorem quarterNumber_mono (h : a ≤ b) : a.quarterNumber ≤ b.quarterNumber := by
  have ha := a.range
  have hb := b.range
  rw [le_iff] at h
  unfold quarterNumber
  omega

/-- The first quarter of the calendar. -/
theorem le_quarterNumber (d : Date) : 4 * minYear ≤ d.quarterNumber := by
  have h := d.range
  unfold quarterNumber
  omega

namespace BeginsQuarter

theorem le_iff (h : q.BeginsQuarter) : q ≤ d ↔ q.quarterNumber ≤ d.quarterNumber := by
  refine ⟨quarterNumber_mono, fun hnumber => Date.le_iff.mpr ?_⟩
  have hd := d.range
  obtain ⟨hday, hmonth⟩ := beginsQuarter_iff.mp h
  unfold quarterNumber at hnumber
  omega

theorem lt_iff (h : q.BeginsQuarter) : d < q ↔ d.quarterNumber < q.quarterNumber := by
  rw [← not_le, h.le_iff, Int.not_le]

/-- A quarter begins on one day. -/
theorem unique (ha : a.BeginsQuarter) (hb : b.BeginsQuarter)
    (h : a.quarterNumber = b.quarterNumber) : a = b :=
  le_antisymm (ha.le_iff.mpr (Int.le_of_eq h)) (hb.le_iff.mpr (Int.le_of_eq h.symm))

end BeginsQuarter

/-! ## The quarter that a date lies in -/

/-- The calendar has the first day of every quarter that it has a date of. -/
theorem quarterStart_parts (d : Date) : d.quarterStart.year = d.year ∧
    d.quarterStart.month = (d.month - 1) / 3 * 3 + 1 ∧ d.quarterStart.day = 1 := by
  have hrange := d.range
  have hoccurs : occurs d.year ((d.month - 1) / 3 * 3 + 1) 1 = true :=
    occurs_first_iff.mpr (by omega)
  simp [quarterStart, ofParts?, hoccurs]

theorem beginsQuarter_quarterStart (d : Date) : d.quarterStart.BeginsQuarter := by
  obtain ⟨-, hmonth, hday⟩ := d.quarterStart_parts
  exact beginsQuarter_iff.mpr ⟨hday, by omega⟩

theorem quarterNumber_quarterStart (d : Date) : d.quarterStart.quarterNumber = d.quarterNumber := by
  obtain ⟨hyear, hmonth, -⟩ := d.quarterStart_parts
  unfold quarterNumber
  omega

theorem BeginsQuarter.le_quarterStart_iff (h : q.BeginsQuarter) : q ≤ d.quarterStart ↔ q ≤ d := by
  rw [h.le_iff, h.le_iff, quarterNumber_quarterStart]

theorem isGreatest_quarterStart (d : Date) :
    IsGreatest {q | q.BeginsQuarter ∧ q ≤ d} d.quarterStart := by
  have hbegins := d.beginsQuarter_quarterStart
  exact ⟨⟨hbegins, hbegins.le_quarterStart_iff.mp le_rfl⟩,
    fun q ⟨hq, hle⟩ => hq.le_quarterStart_iff.mpr hle⟩

theorem BeginsQuarter.quarterStart_eq (h : d.BeginsQuarter) : d.quarterStart = d :=
  d.beginsQuarter_quarterStart.unique h d.quarterNumber_quarterStart

theorem quarterStart_mono (h : a ≤ b) : a.quarterStart ≤ b.quarterStart := by
  rw [a.beginsQuarter_quarterStart.le_quarterStart_iff]
  exact le_trans a.isGreatest_quarterStart.1.2 h

/-! ## The quarter before -/

theorem monthsBefore?_first (hday : d.day = 1) (months : Nat) : d.monthsBefore? months =
    let index : Int := d.year * 12 + (d.month - 1 : Nat) - months
    ofParts? (index / 12) ((index % 12).toNat + 1) 1 := by
  have hdays : ∀ year month, min 1 (daysInMonth year month) = 1 := fun year month =>
    Nat.min_eq_left (one_le_daysInMonth year month)
  simp only [monthsBefore?, hday, hdays, Int.fdiv_eq_ediv_of_nonneg _ (show (0 : Int) ≤ 12 by decide),
    Int.fmod_eq_emod_of_nonneg _ (show (0 : Int) ≤ 12 by decide)]

/-- Three months before the first day of a quarter is the first day of the quarter before, unless
that would lie before the first year. -/
theorem BeginsQuarter.monthsBefore?_three (h : d.BeginsQuarter) :
    (∃ p, d.monthsBefore? 3 = some p ∧ p.BeginsQuarter ∧ p.quarterNumber + 1 = d.quarterNumber) ∨
      d.monthsBefore? 3 = none ∧ d.quarterNumber = 4 * minYear := by
  have hrange := d.range
  obtain ⟨hday, hmonth⟩ := beginsQuarter_iff.mp h
  rw [monthsBefore?_first hday]
  generalize hindex : d.year * 12 + ((d.month - 1 : Nat) : Int) - (3 : Nat) = index
  by_cases hoccurs : occurs (index / 12) ((index % 12).toNat + 1) 1 = true
  · refine .inl ⟨⟨_, _, _, hoccurs⟩, dif_pos hoccurs, beginsQuarter_iff.mpr ⟨rfl, ?_⟩, ?_⟩
    · dsimp only
      omega
    · dsimp only [quarterNumber]
      omega
  · refine .inr ⟨dif_neg hoccurs, ?_⟩
    rw [occurs_first_iff] at hoccurs
    unfold quarterNumber
    omega

/-- There is an earlier quarter unless the date lies in the first quarter of the first year. -/
theorem exists_lt_quarterStart_iff (d : Date) :
    (∃ q, q.BeginsQuarter ∧ q < d.quarterStart) ↔ minYear < d.year ∨ 3 < d.month := by
  have hrange := d.range
  have hnumber : 4 * minYear < d.quarterNumber ↔ minYear < d.year ∨ 3 < d.month := by
    unfold quarterNumber
    omega
  have hbegins := d.beginsQuarter_quarterStart
  rw [← hnumber, ← quarterNumber_quarterStart]
  constructor
  · rintro ⟨q, -, hlt⟩
    have hq := q.le_quarterNumber
    rw [hbegins.lt_iff] at hlt
    omega
  · intro hlater
    rcases hbegins.monthsBefore?_three with ⟨p, -, hp, hstep⟩ | ⟨-, hfirst⟩
    · exact ⟨p, hp, hbegins.lt_iff.mpr (by omega)⟩
    · omega

theorem isGreatest_previousQuarterStart (h : ∃ q, q.BeginsQuarter ∧ q < d.quarterStart) :
    IsGreatest {q | q.BeginsQuarter ∧ q < d.quarterStart} d.previousQuarterStart := by
  have hbegins := d.beginsQuarter_quarterStart
  obtain ⟨q, -, hearlier⟩ := h
  rcases hbegins.monthsBefore?_three with ⟨p, hp, hbefore, hstep⟩ | ⟨-, hfirst⟩
  · rw [previousQuarterStart, hp, Option.getD_some]
    refine ⟨⟨hbefore, hbegins.lt_iff.mpr (by omega)⟩, fun q ⟨hq, hlt⟩ => hq.le_iff.mpr ?_⟩
    rw [hbegins.lt_iff] at hlt
    omega
  · -- nothing lies before the first quarter of the calendar
    have hq := q.le_quarterNumber
    rw [hbegins.lt_iff, hfirst] at hearlier
    omega

/-- Where there is no earlier quarter, the quarter itself is taken for it. -/
theorem previousQuarterStart_of_first (h : ¬∃ q, q.BeginsQuarter ∧ q < d.quarterStart) :
    d.previousQuarterStart = d.quarterStart := by
  have hbegins := d.beginsQuarter_quarterStart
  rcases hbegins.monthsBefore?_three with ⟨p, -, hp, hstep⟩ | ⟨hnone, -⟩
  · exact absurd ⟨p, hp, hbegins.lt_iff.mpr (by omega)⟩ h
  · rw [previousQuarterStart, hnone, Option.getD_none]

/-! ## All of it -/

/-- The start of a quarter is the latest first day of January, April, July or October that is not
after the date; it is its own start, and a later date has no earlier one. The last quarter is
resolved to the latest such day before that start, if the calendar has one, and else to the start
itself. The calendar has none for the dates in the first quarter of its first year, and for these
only. -/
theorem quarterStart_isLatest :
    (∀ today : Date, IsGreatest {q | q.BeginsQuarter ∧ q ≤ today} today.quarterStart) ∧
    (∀ today : Date, today.quarterStart.quarterStart = today.quarterStart) ∧
    (∀ earlier later : Date, earlier ≤ later → earlier.quarterStart ≤ later.quarterStart) ∧
    (∀ today : Date, (∃ q, q.BeginsQuarter ∧ q < today.quarterStart) →
      ∃ previous, RelativePeriod.lastQuarter.resolve today = .day previous ∧
        IsGreatest {q | q.BeginsQuarter ∧ q < today.quarterStart} previous) ∧
    (∀ today : Date, (¬∃ q, q.BeginsQuarter ∧ q < today.quarterStart) →
      RelativePeriod.lastQuarter.resolve today = .day today.quarterStart) ∧
    ∀ today : Date, (∃ q, q.BeginsQuarter ∧ q < today.quarterStart) ↔
      minYear < today.year ∨ 3 < today.month :=
  ⟨isGreatest_quarterStart, fun today => today.beginsQuarter_quarterStart.quarterStart_eq,
    fun _ _ => quarterStart_mono, fun _ h => ⟨_, rfl, isGreatest_previousQuarterStart h⟩,
    fun _ h => congrArg DateExpr.day (previousQuarterStart_of_first h), exists_lt_quarterStart_iff⟩

/-- A leap day of a year with a sign and five digits, and a quarter that began in the year before; the
last day of the first quarter of the calendar. -/
theorem quarterStart_isLatest_leapDay :
    let today : Date := ⟨-10000, 2, 29, by decide⟩
    let previous : Date := ⟨-10001, 10, 1, by decide⟩
    let first : Date := ⟨minYear, 3, 31, by decide⟩
    (∃ q, q.BeginsQuarter ∧ q < today.quarterStart) ∧
    RelativePeriod.lastQuarter.resolve today = .day previous ∧
    IsGreatest {q | q.BeginsQuarter ∧ q < today.quarterStart} previous ∧
    previous ≤ today ∧ previous.quarterStart ≤ today.quarterStart ∧
    (¬∃ q, q.BeginsQuarter ∧ q < first.quarterStart) ∧
    RelativePeriod.lastQuarter.resolve first = .day first.quarterStart := by
  intro today previous first
  obtain ⟨-, -, hmono, hlast, hnone, hexists⟩ := quarterStart_isLatest
  have hearlier := (hexists today).mpr (.inl (by decide))
  have hresolve : RelativePeriod.lastQuarter.resolve today = .day previous := by decide
  have hle : previous ≤ today := le_iff.mpr (by decide)
  have hfirst : ¬∃ q, q.BeginsQuarter ∧ q < first.quarterStart := by
    rw [hexists first]
    decide
  obtain ⟨q, hq, hgreatest⟩ := hlast today hearlier
  obtain rfl : q = previous := DateExpr.day.inj (hq.symm.trans hresolve)
  exact ⟨hearlier, hresolve, hgreatest, hle, hmono _ _ hle, hfirst, hnone _ hfirst⟩

end Date
end WorkQuery
