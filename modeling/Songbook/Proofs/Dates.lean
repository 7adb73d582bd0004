import Songbook.Proofs.CaseFolding
import Songbook.Proofs.CivilDays
import Songbook.Proofs.Numerals
import Songbook.Value.Date

/-!
# Written dates read back

A date is written with digits, hyphens and perhaps a plus sign, so neither
trimming nor lower-casing changes it, and it is not one of the two words for a
date. From the year 0 on the only hyphens are the two between the numbers that
it was written from, and they take it apart into these again; an earlier year
has its minus sign in front, which takes off an empty part more.
-/

namespace Songbook

namespace Date

open Songbook.Text

/-! ## The parts of a written date -/

theorem mem_yearText {year : Int} :
    ∀ c ∈ yearText year, c = '+' ∨ c = '-' ∨ c.isDigit = true := by
  intro c hc
  rw [yearText] at hc
  split at hc
  · rcases List.mem_cons.1 hc with rfl | hc
    · exact .inr (.inl rfl)
    · exact .inr (.inr (isDigit_of_mem_digits c hc))
  · split at hc
    · rcases List.mem_cons.1 hc with rfl | hc
      · exact .inl rfl
      · exact .inr (.inr (isDigit_of_mem_digits c hc))
    · exact .inr (.inr (isDigit_of_mem_digits c hc))

theorem hyphen_not_mem_digits (width n : Nat) : '-' ∉ digits width n :=
  fun hn => ne_of_isDigit (isDigit_of_mem_digits _ hn) (by decide) rfl

theorem hyphen_not_mem_yearText {year : Int} (h : 0 ≤ year) :
    '-' ∉ yearText year := by
  intro hc
  rw [yearText, if_neg (by omega)] at hc
  split at hc
  · rcases List.mem_cons.1 hc with hc | hc
    · exact absurd hc (by decide)
    · exact hyphen_not_mem_digits _ _ hc
  · exact hyphen_not_mem_digits _ _ hc

theorem signed?_yearText {year : Int} (h : 0 ≤ year) :
    signed? (yearText year) = some year := by
  rw [yearText, if_neg (by omega)]
  split
  · rw [signed?, natural?_digits]
    exact congrArg some (by show (year.natAbs : Int) = year; omega)
  · rw [signed?_digits]
    exact congrArg some (by omega)

variable {d : Date}

theorem mem_text :
    ∀ c ∈ d.text.toList, c = '+' ∨ c = '-' ∨ c.isDigit = true := by
  intro c hc
  rw [text, String.toList_ofList] at hc
  simp only [List.append_assoc, List.cons_append, List.mem_append,
    List.mem_cons] at hc
  rcases hc with hc | rfl | hc | rfl | hc
  · exact mem_yearText c hc
  · exact .inr (.inl rfl)
  · exact .inr (.inr (isDigit_of_mem_digits c hc))
  · exact .inr (.inl rfl)
  · exact .inr (.inr (isDigit_of_mem_digits c hc))

theorem isBlank_of_mem_text : ∀ c ∈ d.text.toList, isBlank c = false := by
  intro c hc
  rcases mem_text c hc with rfl | rfl | hc
  · decide
  · decide
  · exact isBlank_eq_false_of_isDigit hc

theorem toNat_lt_of_mem_text : ∀ c ∈ d.text.toList, c.toNat < 65 := by
  intro c hc
  rcases mem_text c hc with rfl | rfl | hc
  · decide
  · decide
  · exact Nat.lt_of_le_of_lt (toNat_bounds_of_isDigit hc).2 (by decide)

theorem text_of_lt (h : 9999 < d.year) :
    ∃ rest, d.text.toList = '+' :: rest := by
  rw [text, String.toList_ofList, yearText, if_neg (by omega), if_pos h]
  exact ⟨_, rfl⟩

/-- Nothing is trimmed from a written date, and nothing in it has another
case. -/
theorem lower_trim_text (d : Date) :
    lower (trim d.text.toList) = d.text.toList := by
  rw [trim_eq_self isBlank_of_mem_text,
    lower_eq_self fun c hc => .inl (toNat_lt_of_mem_text c hc)]

theorem splitOn_text (h : 0 ≤ d.year) :
    d.text.toList.splitOn '-' =
      [yearText d.year, digits 2 d.month, digits 2 d.day] := by
  rw [text, String.toList_ofList, List.append_assoc, List.cons_append,
    List.splitOn_append_cons_self_of_not_mem (hyphen_not_mem_yearText h),
    List.splitOn_append_cons_self_of_not_mem (hyphen_not_mem_digits _ _),
    List.splitOn_eq_singleton (hyphen_not_mem_digits _ _)]

/-- The minus sign of a year before 0 is a hyphen as well. -/
theorem splitOn_text_of_neg (h : d.year < 0) : d.text.toList.splitOn '-' =
    [[], digits 4 d.year.natAbs, digits 2 d.month, digits 2 d.day] := by
  rw [text, String.toList_ofList, yearText, if_pos h, List.append_assoc,
    List.cons_append, List.cons_append, ← List.nil_append ('-' :: _),
    List.splitOn_append_cons_self_of_not_mem List.not_mem_nil,
    List.splitOn_append_cons_self_of_not_mem (hyphen_not_mem_digits _ _),
    List.splitOn_append_cons_self_of_not_mem (hyphen_not_mem_digits _ _),
    List.splitOn_eq_singleton (hyphen_not_mem_digits _ _)]

/-- A written date is neither of the words for a date, as it is written
without letters. -/
theorem text_ne_of_mem {word : List Char} (hw : ∃ c ∈ word, 65 ≤ c.toNat) :
    d.text.toList ≠ word := by
  rintro rfl
  obtain ⟨c, hc, hge⟩ := hw
  have := toNat_lt_of_mem_text c hc
  omega

end Date

namespace Value

open Songbook.Text

theorem date?_text (today d : Date) :
    date? today d.text.toList = dateOfParts? (d.text.toList.splitOn '-') := by
  rw [date?, Date.lower_trim_text]
  rw [if_neg (Date.text_ne_of_mem ⟨'t', by decide, by decide⟩),
    if_neg (Date.text_ne_of_mem ⟨'y', by decide, by decide⟩)]

theorem integer?_digits (width : Nat) {n : Nat} (h : n ≤ 366) :
    ∃ x, integer? (digits width n) = some x ∧ x.toInt = n :=
  integer?_of_signed? (fun c hc =>
    isBlank_eq_false_of_isDigit (isDigit_of_mem_digits c hc))
    (signed?_digits width n) (by omega) (by omega)

/-- A date from the year 0 on reads back from its text, whatever day it is. -/
theorem readDate_text (today : Date) {d : Date} (h : 0 ≤ d.year) :
    readDate today d.text = .ok d := by
  have hcivil : Calendar.IsCivil d.year d.month d.day :=
    Calendar.isCivil_of_day _
  have hday : d.day ≤ 366 :=
    Nat.le_trans hcivil.2.2.2 (Calendar.monthLength_le _ _)
  have hmonth := hcivil.2.1
  have hyear := d.year_le
  obtain ⟨y, hy, hy'⟩ :=
    integer?_of_signed? (s := Date.yearText d.year) (n := d.year)
    (fun c hc => Date.isBlank_of_mem_text c (by
      rw [Date.text, String.toList_ofList, List.append_assoc]
      exact List.mem_append_left _ hc))
    (Date.signed?_yearText h) (by omega) (by omega)
  obtain ⟨m, hm, hm'⟩ := integer?_digits 2 (by omega : d.month ≤ 366)
  obtain ⟨k, hk, hk'⟩ := integer?_digits 2 hday
  have hparts : dateOfParts?
      [Date.yearText d.year, digits 2 d.month, digits 2 d.day] = some d := by
    simp only [dateOfParts?, hy, hm, hk, Option.bind_eq_bind, Option.bind_some,
      hy', hm', hk', Int.toNat_natCast]
    rw [if_pos ⟨by omega, by omega⟩, Date.ofCivil?_self]
  rw [readDate, date?_text, Date.splitOn_text h, hparts]

/-- A date before the year 0 is refused as it is written. -/
theorem readDate_text_of_neg (today : Date) {d : Date} (h : d.year < 0) :
    readDate today d.text = .error (.date d.text) := by
  rw [readDate, date?_text, Date.splitOn_text_of_neg h]
  rfl

end Value

end Songbook
