import Songbook.Calendar.Civil
import Songbook.Text.Decimal

/-!
# Dates

A date is a day of the proleptic Gregorian calendar, held as the number of
days since 1970-01-01, so that dates are ordered and stepped by their numbers.
Years run from -262143 to 262142; the bounds are part of the type, and each
way of making a date from something else says whether it can.
-/

namespace Songbook

open Songbook.Calendar

/-- The number of -262143-01-01. -/
def Date.firstNumber : Int := -96465292

/-- The number of 262142-12-31. -/
def Date.lastNumber : Int := 95026236

/-- A day, by its distance from 1970-01-01. -/
structure Date where
  number : Int
  first_le : Date.firstNumber ≤ number
  le_last : number ≤ Date.lastNumber
deriving DecidableEq

namespace Date

/-- The date with a number, if it is in range. -/
def ofNumber? (n : Int) : Option Date :=
  if h : firstNumber ≤ n ∧ n ≤ lastNumber then some ⟨n, h.1, h.2⟩ else none

/-- The year, which may be zero or negative. -/
def year (d : Date) : Int :=
  yearOfDay (d.number + epochDay)

/-- The month, from 1 to 12. -/
def month (d : Date) : Nat :=
  monthOfDay (d.number + epochDay)

/-- The day of the month, from 1. -/
def day (d : Date) : Nat :=
  placeInMonth (d.number + epochDay)

/-- The date that a year, a month and a day of the month name, if they name
one in range. -/
def ofCivil? (year : Int) (month day : Nat) : Option Date :=
  if IsCivil year month day then ofNumber?
    (dayOfCivil year month day - epochDay) else none

/-- The day before, if there is one in range. -/
def yesterday? (d : Date) : Option Date :=
  ofNumber? (d.number - 1)

instance : LE Date := ⟨fun a b => a.number ≤ b.number⟩

instance : LT Date := ⟨fun a b => a.number < b.number⟩

instance (a b : Date) : Decidable (a ≤ b) :=
  inferInstanceAs (Decidable (a.number ≤ b.number))

instance (a b : Date) : Decidable (a < b) :=
  inferInstanceAs (Decidable (a.number < b.number))

/-- A year in at least four digits. A sign comes first when it is negative or
has more than four. -/
def yearText (year : Int) : List Char :=
  if year < 0 then '-' :: Text.digits 4 year.natAbs
  else if 9999 < year then '+' :: Text.digits 4 year.natAbs
  else Text.digits 4 year.natAbs

/-- A date as year, month and day with hyphens between them. -/
def text (d : Date) : String :=
  String.ofList (yearText d.year ++ '-' :: Text.digits 2 d.month ++
    '-' :: Text.digits 2 d.day)

theorem ofNumber?_eq_some_iff {n : Int} {d : Date} :
    ofNumber? n = some d ↔ d.number = n := by
  unfold ofNumber?
  split
  · next h =>
    rw [Option.some.injEq]
    constructor
    · rintro rfl
      rfl
    · rintro rfl
      rfl
  · next h =>
    simp only [reduceCtorEq, false_iff]
    rintro rfl
    exact h ⟨d.first_le, d.le_last⟩

/-- A date is named by nothing but its own year, month and day of the month. -/
theorem number_of_ofCivil? {y : Int} {m k : Nat} {d : Date}
    (h : ofCivil? y m k = some d) :
    d.number + epochDay = dayOfCivil y m k := by
  unfold ofCivil? at h
  split at h
  · have := ofNumber?_eq_some_iff.1 h
    omega
  · exact absurd h (by simp)

end Date

end Songbook
