import Mathlib.Logic.ExistsUnique
import Mathlib.Tactic.ByContra
import Mathlib.Tactic.SplitIfs
import Songbook.Proofs.CivilDays

/-!
# The real days are the dates

Which years, months and days of the month name a day is a rule about leap
years and the lengths of months, `IsRealDay`, which says nothing of day
numbers. The main statement is that within the years that dates have, a name
that follows the rule names exactly one date, and any other name none.

Day numbers go through the years in order, so a day lies in a year or a later
one exactly when it comes no earlier than the year's first day; this is what
takes the year of a day back from its number, and the bounds of dates to
bounds of years.
-/

namespace Songbook

namespace Calendar

/-! ## Leap years and lengths of months -/

/-- Every fourth year is a leap year, but a century is one only if it is a
fourth century. -/
def IsLeap (year : Int) : Prop :=
  4 ∣ year ∧ (100 ∣ year → 400 ∣ year)

instance (year : Int) : Decidable (IsLeap year) :=
  inferInstanceAs (Decidable (_ ∧ _))

/-- The days of a month: thirty in April, June, September and November, in
February as the year has it, and thirty-one in the others. -/
def daysInMonth (year month : Int) : Int :=
  if month = 2 then
    if IsLeap year then 29 else 28
  else if month = 4 ∨ month = 6 ∨ month = 9 ∨ month = 11 then 30
  else 31

/-- Whether a year, a month and a day of the month name a day. -/
def IsRealDay (year month day : Int) : Prop :=
  (1 ≤ month ∧ month ≤ 12) ∧ 1 ≤ day ∧ day ≤ daysInMonth year month

instance (year month day : Int) : Decidable (IsRealDay year month day) :=
  inferInstanceAs (Decidable (_ ∧ _))

theorem isLeapYear_eq_decide (year : Int) :
    isLeapYear year = decide (IsLeap year) := by
  rw [Bool.eq_iff_iff, decide_eq_true_iff, isLeapYear, IsLeap]
  simp only [Bool.and_eq_true, Bool.or_eq_true, beq_iff_eq, bne_iff_ne]
  omega

theorem monthLength_eq_daysInMonth {month : Nat} (h : 1 ≤ month ∧ month ≤ 12)
    (year : Int) :
    (monthLength (isLeapYear year) month : Int) = daysInMonth year month := by
  have hall : ∀ leap : Bool, ∀ month < 13, 1 ≤ month → monthLength leap month =
      if month = 2 then if leap = true then 29 else 28
      else if month = 4 ∨ month = 6 ∨ month = 9 ∨ month = 11 then 30
      else 31 := by
    decide
  rw [hall _ month (by omega) h.1, isLeapYear_eq_decide, daysInMonth]
  simp only [decide_eq_true_eq]
  split_ifs <;> omega

theorem isCivil_iff_isRealDay {year : Int} {month day : Nat} :
    IsCivil year month day ↔ IsRealDay year month day := by
  rw [IsCivil, IsRealDay]
  constructor
  · rintro ⟨hpos, hle, hday, hlength⟩
    have := monthLength_eq_daysInMonth ⟨hpos, hle⟩ year
    omega
  · rintro ⟨⟨hpos, hle⟩, hday, hlength⟩
    have : (monthLength (isLeapYear year) month : Int) =
        daysInMonth year month :=
      monthLength_eq_daysInMonth ⟨by omega, by omega⟩ year
    omega

/-! ## The year and the month of a day -/

theorem monthStart_mono (leap : Bool) {month later : Nat} (h : month ≤ later)
    (hle : later ≤ 13) :
    monthStart leap month ≤ monthStart leap later := by
  have hall : ∀ leap, ∀ later < 14, ∀ month < later + 1,
      monthStart leap month ≤ monthStart leap later := by decide
  exact hall leap later (by omega) month (by omega)

theorem monthUpTo_eq {leap : Bool} {day month : Nat}
    (h : 1 ≤ month ∧ month ≤ 12) (hle : monthStart leap month ≤ day)
    (hlt : day < monthStart leap (month + 1)) :
    monthUpTo leap day 12 = month := by
  have hfound := monthStart_monthUpTo_le leap day 12
  have hfound' : monthUpTo leap day 12 ≤ 12 := monthUpTo_le leap day (by decide)
  refine Nat.le_antisymm ?_ ?_
  · by_contra hlater
    have : monthStart leap (month + 1) ≤
        monthStart leap (monthUpTo leap day 12) :=
      monthStart_mono leap (by omega) (by omega)
    omega
  · by_contra hearlier
    have := lt_monthStart_of_monthUpTo_lt (Nat.lt_of_not_le hearlier) h.2
    omega

variable {year : Int} {month day : Nat}

/-- A real day lies before the end of its month, and its month ends in its
year. -/
theorem IsCivil.bounds (h : IsCivil year month day) :
    monthStart (isLeapYear year) month + day ≤
      monthStart (isLeapYear year) (month + 1) ∧
      yearStart year + monthStart (isLeapYear year) (month + 1) ≤
        yearStart (year + 1) := by
  obtain ⟨hpos, hle, hday, hlength⟩ := h
  constructor
  · rw [monthLength] at hlength
    omega
  · have hend : monthStart (isLeapYear year) (month + 1) ≤
        monthStart (isLeapYear year) 13 :=
      monthStart_mono _ (by omega) (by omega)
    rw [yearStart_succ]
    cases hleap : isLeapYear year with
    | true =>
        rw [hleap, show monthStart true 13 = 366 from rfl] at hend
        rw [if_pos rfl]
        omega
    | false =>
        rw [hleap, show monthStart false 13 = 365 from rfl] at hend
        rw [if_neg Bool.false_ne_true]
        omega

theorem IsCivil.yearOfDay_eq (h : IsCivil year month day) :
    yearOfDay (dayOfCivil year month day) = year := by
  obtain ⟨hday, hmonth⟩ := h.bounds
  have hpos := h.2.2.1
  have hle : year ≤ yearOfDay (dayOfCivil year month day) := by
    rw [le_yearOfDay_iff, dayOfCivil]
    omega
  have hlt : ¬year + 1 ≤ yearOfDay (dayOfCivil year month day) := by
    rw [le_yearOfDay_iff, dayOfCivil]
    omega
  omega

theorem IsCivil.dayOfYear_eq (h : IsCivil year month day) :
    dayOfYear (dayOfCivil year month day) + 1 =
      monthStart (isLeapYear year) month + day := by
  have hpos := h.2.2.1
  rw [dayOfYear, h.yearOfDay_eq, dayOfCivil]
  omega

theorem IsCivil.monthOfDay_eq (h : IsCivil year month day) :
    monthOfDay (dayOfCivil year month day) = month := by
  have hdayOfYear := h.dayOfYear_eq
  have hday := h.bounds.1
  have hpos := h.2.2.1
  rw [monthOfDay, h.yearOfDay_eq]
  exact monthUpTo_eq ⟨h.1, h.2.1⟩ (by omega) (by omega)

theorem IsCivil.placeInMonth_eq (h : IsCivil year month day) :
    placeInMonth (dayOfCivil year month day) = day := by
  have hplace := monthStart_add_placeInMonth (dayOfCivil year month day)
  rw [h.yearOfDay_eq, h.monthOfDay_eq, h.dayOfYear_eq] at hplace
  omega

end Calendar

namespace Date

open Songbook.Calendar

variable {d : Date} {year : Int} {month day : Nat}

/-- The dates are the days of the years from -262143 to 262142. -/
theorem isNumber_iff {n : Int} : (∃ d : Date, d.number = n) ↔
    -262143 ≤ yearOfDay (n + epochDay) ∧ yearOfDay (n + epochDay) ≤ 262142 := by
  have hfirst : yearStart (-262143) = firstNumber + epochDay := by decide
  have hlast : yearStart 262143 = lastNumber + epochDay + 1 := by decide
  have hlt : yearOfDay (n + epochDay) ≤ 262142 ↔
      n + epochDay < yearStart 262143 := by
    rw [← Int.not_le, ← le_yearOfDay_iff]
    omega
  rw [le_yearOfDay_iff, hlt, hfirst, hlast]
  constructor
  · rintro ⟨d, rfl⟩
    have := d.first_le
    have := d.le_last
    omega
  · rintro ⟨h₁, h₂⟩
    exact ⟨⟨n, by omega, by omega⟩, rfl⟩

theorem ofCivil?_eq_some_iff : ofCivil? year month day = some d ↔
    d.year = year ∧ d.month = month ∧ d.day = day := by
  constructor
  · intro h
    have hnumber := number_of_ofCivil? h
    rw [ofCivil?] at h
    split at h
    · next hcivil =>
      rw [Date.year, Date.month, Date.day, hnumber]
      exact ⟨hcivil.yearOfDay_eq, hcivil.monthOfDay_eq, hcivil.placeInMonth_eq⟩
    · cases h
  · rintro ⟨rfl, rfl, rfl⟩
    exact ofCivil?_self d

/-- Whether a date has a year, a month and a day of the month. -/
def IsNamed (d : Date) (year month day : Int) : Prop :=
  d.year = year ∧ (d.month : Int) = month ∧ (d.day : Int) = day

instance (d : Date) (year month day : Int) :
    Decidable (d.IsNamed year month day) :=
  inferInstanceAs (Decidable (_ ∧ _))

theorem isNamed_natCast_iff :
    d.IsNamed year month day ↔ ofCivil? year month day = some d := by
  rw [ofCivil?_eq_some_iff, IsNamed, Int.natCast_inj, Int.natCast_inj]

/-- A date is found for a month and a day that are not negative, as none has
others. -/
theorem ite_ofCivil?_eq_some_iff {month day : Int} :
    (if 0 ≤ month ∧ 0 ≤ day then ofCivil? year month.toNat day.toNat
      else none) = some d ↔
      d.IsNamed year month day := by
  split
  · next h =>
    rw [← isNamed_natCast_iff, Int.toNat_of_nonneg h.1, Int.toNat_of_nonneg h.2]
  · next h =>
    refine iff_of_false (by simp) ?_
    rintro ⟨-, hmonth, hday⟩
    omega

theorem IsNamed.exists_natCast {month day : Int}
    (h : d.IsNamed year month day) :
    ∃ m k : Nat, month = m ∧ day = k :=
  ⟨d.month, d.day, h.2.1.symm, h.2.2.symm⟩

theorem exists_isNamed {month day : Int}
    (hyear : -262143 ≤ year ∧ year ≤ 262142) (h : IsRealDay year month day) :
    ∃ d : Date, d.IsNamed year month day := by
  obtain ⟨m, rfl⟩ :=
    Int.eq_ofNat_of_zero_le (a := month) (by have := h.1; omega)
  obtain ⟨k, rfl⟩ := Int.eq_ofNat_of_zero_le (a := day) (by have := h.2; omega)
  have hcivil : IsCivil year m k := isCivil_iff_isRealDay.2 h
  obtain ⟨d, hd⟩ := isNumber_iff (n := dayOfCivil year m k - epochDay).2 (by
    rwa [Int.sub_add_cancel, hcivil.yearOfDay_eq])
  refine ⟨d, isNamed_natCast_iff.2 ?_⟩
  rw [ofCivil?, if_pos hcivil, ofNumber?_eq_some_iff, hd]

theorem IsNamed.isRealDay {month day : Int} (h : d.IsNamed year month day) :
    (-262143 ≤ year ∧ year ≤ 262142) ∧ IsRealDay year month day := by
  obtain ⟨rfl, rfl, rfl⟩ := h
  exact ⟨isNumber_iff.1 ⟨d, rfl⟩, isCivil_iff_isRealDay.1 (isCivil_of_day _)⟩

theorem IsNamed.unique {e : Date} {month day : Int}
    (hd : d.IsNamed year month day) (he : e.IsNamed year month day) :
    d = e := by
  obtain ⟨m, k, rfl, rfl⟩ := hd.exists_natCast
  rw [isNamed_natCast_iff] at hd he
  exact Option.some.inj (hd.symm.trans he)

/-- The real days of the years that dates have name one date each, and nothing
else names any. -/
theorem existsUnique_isNamed_iff {month day : Int} :
    (∃! d : Date, d.IsNamed year month day) ↔
      (-262143 ≤ year ∧ year ≤ 262142) ∧ IsRealDay year month day := by
  constructor
  · rintro ⟨d, hd, -⟩
    exact hd.isRealDay
  · rintro ⟨hyear, hday⟩
    obtain ⟨d, hd⟩ := exists_isNamed hyear hday
    exact ⟨d, hd, fun e he => IsNamed.unique he hd⟩

end Date

end Songbook
