import Songbook.Calendar.Date

/-!
# A day is named by its year, month and place

Going from a day number to year, month and place in the month and back gives
the day number again, and what is gone through is a real day of the calendar.
A year is left by the days that lie before the day in it; the month is the
last that begins no later, so the place in it is no further than the month is
long.
-/

namespace Songbook.Calendar

/-! ## The month of a day of the year -/

theorem monthStart_monthUpTo_le (leap : Bool) (day month : Nat) :
    monthStart leap (monthUpTo leap day month) ≤ day := by
  induction month with
  | zero => cases leap <;> exact Nat.zero_le day
  | succ month ih =>
      rw [monthUpTo]
      split
      · next h => exact h
      · exact ih

theorem monthUpTo_pos (leap : Bool) (day month : Nat) :
    1 ≤ monthUpTo leap day month := by
  induction month with
  | zero => exact Nat.le_refl 1
  | succ month ih =>
      rw [monthUpTo]
      split
      · exact Nat.le_add_left 1 month
      · exact ih

theorem monthUpTo_le (leap : Bool) (day : Nat) {month : Nat} (h : 1 ≤ month) :
    monthUpTo leap day month ≤ month := by
  induction month with
  | zero => cases h
  | succ month ih =>
      rw [monthUpTo]
      split
      · exact Nat.le_refl _
      · cases month with
        | zero => exact Nat.le_refl 1
        | succ month => exact Nat.le_succ_of_le (ih (Nat.le_add_left 1 month))

/-- The months after the one that is found begin later than the day. -/
theorem lt_monthStart_of_monthUpTo_lt {leap : Bool} {day month later : Nat}
    (h : monthUpTo leap day month < later) (hle : later ≤ month) :
    day < monthStart leap later := by
  induction month with
  | zero => omega
  | succ month ih =>
      rw [monthUpTo] at h
      split at h
      · omega
      · next hd =>
          rcases Nat.lt_or_ge month later with hlt | hge
          · have : later = month + 1 := by omega
            subst this
            exact Nat.lt_of_not_le hd
          · exact ih h hge

theorem monthLength_le (leap : Bool) (month : Nat) :
    monthLength leap month ≤ 366 := by
  have hend : ∀ later, monthStart leap later ≤ 366 := by
    intro later
    unfold monthStart
    dsimp only
    split <;> split <;> decide
  exact Nat.le_trans (Nat.sub_le _ _) (hend (month + 1))

/-! ## Day numbers -/

theorem yearStart_mono {year later : Int} (h : year ≤ later) :
    yearStart year ≤ yearStart later := by
  rw [yearStart, yearStart]
  omega

/-- A day lies in a year or a later one exactly when it comes no earlier than
the year begins. -/
theorem le_yearOfDay_iff {year n : Int} :
    year ≤ yearOfDay n ↔ yearStart year ≤ n := by
  obtain ⟨hle, hlt⟩ := yearStart_le_and_lt n
  constructor
  · intro h
    exact Int.le_trans (yearStart_mono h) hle
  · intro h
    rcases Int.lt_or_le (yearOfDay n) year with hearlier | hlater
    · -- the year after that of the day begins no later than `year`, yet after
      -- the day
      have : yearStart (yearOfDay n + 1) ≤ yearStart year :=
        yearStart_mono hearlier
      omega
    · exact hlater

theorem dayOfYear_lt (n : Int) :
    dayOfYear n < monthStart (isLeapYear (yearOfDay n)) 13 := by
  obtain ⟨h₁, h₂⟩ := yearStart_le_and_lt n
  rw [yearStart_succ] at h₂
  rw [dayOfYear]
  cases hl : isLeapYear (yearOfDay n) with
  | true =>
      rw [hl, if_pos rfl] at h₂
      show _ < 366
      omega
  | false =>
      rw [hl, if_neg Bool.false_ne_true] at h₂
      show _ < 365
      omega

theorem monthStart_add_placeInMonth (n : Int) :
    monthStart (isLeapYear (yearOfDay n)) (monthOfDay n) + placeInMonth n =
      dayOfYear n + 1 := by
  have := monthStart_monthUpTo_le (isLeapYear (yearOfDay n)) (dayOfYear n) 12
  rw [placeInMonth, monthOfDay]
  omega

theorem isCivil_of_day (n : Int) :
    IsCivil (yearOfDay n) (monthOfDay n) (placeInMonth n) := by
  have hplace := monthStart_add_placeInMonth n
  have hmonth : monthOfDay n ≤ 12 := monthUpTo_le _ _ (by decide)
  have hnext : dayOfYear n <
      monthStart (isLeapYear (yearOfDay n)) (monthOfDay n + 1) := by
    rcases Nat.lt_or_ge (monthOfDay n) 12 with hlt | hge
    · exact lt_monthStart_of_monthUpTo_lt (Nat.lt_succ_self _) hlt
    · rw [show monthOfDay n = 12 by omega]
      exact dayOfYear_lt n
  refine ⟨monthUpTo_pos _ _ _, hmonth, ?_, ?_⟩
  · rw [placeInMonth]
    omega
  · rw [monthLength]
    omega

theorem dayOfCivil_of_day (n : Int) :
    dayOfCivil (yearOfDay n) (monthOfDay n) (placeInMonth n) = n := by
  have hplace := monthStart_add_placeInMonth n
  have hday : (dayOfYear n : Int) = n - yearStart (yearOfDay n) := by
    have := (yearStart_le_and_lt n).1
    rw [dayOfYear]
    omega
  rw [dayOfCivil]
  omega

end Songbook.Calendar

namespace Songbook.Date

open Songbook.Calendar

theorem ofCivil?_self (d : Date) : ofCivil? d.year d.month d.day = some d := by
  rw [ofCivil?, year, month, day, if_pos (isCivil_of_day _), dayOfCivil_of_day,
    ofNumber?_eq_some_iff]
  omega

theorem year_le (d : Date) : d.year ≤ 262143 := by
  have h₁ := (yearStart_le_and_lt (d.number + epochDay)).1
  have h₂ := d.le_last
  rw [year]
  simp only [yearStart, epochDay, lastNumber] at h₁ h₂ ⊢
  omega

end Songbook.Date
