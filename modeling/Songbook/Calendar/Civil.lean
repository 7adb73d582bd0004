/-!
# Years, months and days

The proleptic Gregorian calendar as arithmetic on day numbers. There is a year
0, which is a leap year, and years before it are negative. Day 0 is the first
of January of year 0 here; dates count from 1970 and shift by `epochDay`.

Going from a day number to its year is one division by the mean length of a
year and a correction by at most one year either way, so no cycle of years has
to be taken apart.
-/

namespace Songbook.Calendar

/-- Every fourth year, but of the centuries only every fourth. -/
def isLeapYear (year : Int) : Bool :=
  year % 4 == 0 && (year % 100 != 0 || year % 400 == 0)

/-- The number of the first day of a year. -/
def yearStart (year : Int) : Int :=
  365 * year + (year + 3) / 4 - (year + 99) / 100 + (year + 399) / 400

/-- The days of a year before a month, which counts from 1; the thirteenth
stands for its end. -/
def monthStart (leap : Bool) (month : Nat) : Nat :=
  let days := match month with
    | 0 | 1 => 0
    | 2 => 31
    | 3 => 59
    | 4 => 90
    | 5 => 120
    | 6 => 151
    | 7 => 181
    | 8 => 212
    | 9 => 243
    | 10 => 273
    | 11 => 304
    | 12 => 334
    | _ => 365
  if leap && 2 < month then days + 1 else days

/-- How many days a month has. -/
def monthLength (leap : Bool) (month : Nat) : Nat :=
  monthStart leap (month + 1) - monthStart leap month

/-- The day number of 1970-01-01. -/
def epochDay : Int := 719528

/-- Whether a year, a month and a day of the month name a day. -/
def IsCivil (year : Int) (month day : Nat) : Prop :=
  1 ≤ month ∧ month ≤ 12 ∧ 1 ≤ day ∧ day ≤ monthLength (isLeapYear year) month

instance (year : Int) (month day : Nat) : Decidable (IsCivil year month day) :=
  inferInstanceAs (Decidable (_ ∧ _))

/-- The number of a day given by year, month and day of the month. -/
def dayOfCivil (year : Int) (month day : Nat) : Int :=
  yearStart year + monthStart (isLeapYear year) month + day - 1

/-- The year that a day lies in. -/
def yearOfDay (n : Int) : Int :=
  let year := n * 400 / 146097
  if n < yearStart year then year - 1
  else if yearStart (year + 1) ≤ n then year + 1
  else year

/-- The last month up to `month` that begins no later than the given day of
the year. -/
def monthUpTo (leap : Bool) (day : Nat) : Nat → Nat
  | 0 => 1
  | month + 1 =>
      if monthStart leap (month + 1) ≤ day then month + 1
      else monthUpTo leap day month

/-- How many days of its year come before a day. -/
def dayOfYear (n : Int) : Nat :=
  (n - yearStart (yearOfDay n)).toNat

/-- The month that a day lies in, from 1. -/
def monthOfDay (n : Int) : Nat :=
  monthUpTo (isLeapYear (yearOfDay n)) (dayOfYear n) 12

/-- The place of a day in its month, from 1. -/
def placeInMonth (n : Int) : Nat :=
  dayOfYear n - monthStart (isLeapYear (yearOfDay n)) (monthOfDay n) + 1

/-! ## A day lies in its year -/

/-- A year is followed by the next after 365 days, or 366 in a leap year. -/
theorem yearStart_succ (year : Int) :
    yearStart (year + 1) =
      yearStart year + if isLeapYear year then 366 else 365 := by
  simp only [yearStart, isLeapYear, Bool.and_eq_true, Bool.or_eq_true,
    beq_iff_eq, bne_iff_ne]
  split <;> omega

theorem yearStart_le_and_lt (n : Int) :
    yearStart (yearOfDay n) ≤ n ∧ n < yearStart (yearOfDay n + 1) := by
  simp only [yearOfDay]
  split
  · next h =>
    rw [Int.sub_add_cancel]
    simp only [yearStart] at h ⊢
    omega
  · next h =>
    split
    · next h' => simp only [yearStart] at h h' ⊢; omega
    · next h' => omega

end Songbook.Calendar
