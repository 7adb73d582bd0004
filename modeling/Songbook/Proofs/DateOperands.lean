import Songbook.Proofs.CaseFolding
import Songbook.Proofs.Dates
import Songbook.Proofs.Integers
import Songbook.Proofs.RealDays

/-!
# Which texts are dates

An operand that is not one of the two words for a date is one exactly when
hyphens take it apart into three integers that name a real day in range. It is
taken apart in lower case and without its outer blanks, but that is not seen
in its parts: a hyphen is no letter and no blank, each part is read without
the blanks around it, and a part with a letter is no integer in either case.
So the rule can be stated of the text as it was typed.
-/

namespace Songbook

namespace Value

open Songbook.Text

variable {s t : List Char}

/-! ## Integers and case -/

theorem HoldsInteger.isPlain {n : Int} (h : HoldsInteger s n) :
    ∀ c ∈ s, IsPlain c := by
  obtain ⟨before, numeral, after, hbefore, hafter, rfl, hnumeral⟩ := h
  intro c hc
  rcases List.mem_append.1 hc with hc | hc
  · rcases List.mem_append.1 hc with hc | hc
    · exact .inr (List.all_eq_true.1 hbefore c hc)
    · exact .inl (hnumeral.toNat_lt c hc)
  · exact .inr (List.all_eq_true.1 hafter c hc)

theorem integer?_eq_none_of_not_isPlain (h : ∃ c ∈ s, ¬IsPlain c) :
    integer? s = none := by
  obtain ⟨c, hc, hplain⟩ := h
  exact integer?_eq_none_iff.2 fun n hn => absurd (hn.isPlain c hc) hplain

theorem integer?_of_folds (h : Folds s t) : integer? t = integer? s := by
  rcases h.eq_or_exists with rfl | ⟨hs, ht⟩
  · rfl
  · rw [integer?_eq_none_of_not_isPlain hs, integer?_eq_none_of_not_isPlain ht]

/-- The integers in the parts of a text do not depend on its case, nor on
blanks around it. -/
theorem partsHold_lower_trim_iff {numbers : List Int64} :
    PartsHold '-' (lower (trim s)) numbers ↔ PartsHold '-' s numbers := by
  rw [partsHold_iff_map, partsHold_iff_map,
    (folds_lower (trim s)).map_splitOn integer?_of_folds (by decide),
    ignoresBlanks_integer?.map_splitOn_trim (by decide)]

/-! ## Dates -/

variable {today d : Date} {text : String}

/-- Three parts are a date exactly when they hold integers that name it. -/
theorem dateOfParts?_eq_some_iff : dateOfParts? (s.splitOn '-') = some d ↔
    ∃ y m k, PartsHold '-' s [y, m, k] ∧ d.IsNamed y.toInt m.toInt k.toInt := by
  simp only [partsHold_iff_map]
  generalize s.splitOn '-' = parts
  match parts with
  | [year, month, day] =>
      simp only [dateOfParts?, Option.bind_eq_bind, Option.bind_eq_some_iff,
        Date.ite_ofCivil?_eq_some_iff, List.map_cons, List.map_nil,
        List.cons.injEq, and_true]
      constructor
      · rintro ⟨y, hy, m, hm, k, hk, h⟩
        exact ⟨y, m, k, ⟨hy, hm, hk⟩, h⟩
      · rintro ⟨y, m, k, ⟨hy, hm, hk⟩, h⟩
        exact ⟨y, hy, m, hm, k, hk, h⟩
  | [] | [_] | [_, _] | _ :: _ :: _ :: _ :: _ => simp [dateOfParts?]

theorem readDate_eq_ok_iff :
    readDate today text = .ok d ↔ date? today text.toList = some d := by
  rw [readDate]
  cases date? today text.toList with
  | none => simp
  | some e => simp

theorem readDate_eq_error_iff :
    readDate today text = .error (.date text) ↔
      ∀ d, readDate today text ≠ .ok d := by
  rw [readDate]
  cases date? today text.toList with
  | none => simp
  | some e => simp

theorem readDate_of_today (h : lower (trim text.toList) = "today".toList) :
    readDate today text = .ok today := by
  rw [readDate_eq_ok_iff, date?]
  exact if_pos h

theorem readDate_of_yesterday
    (h : lower (trim text.toList) = "yesterday".toList) :
    readDate today text = .ok d ↔ d.number + 1 = today.number := by
  have hdate : date? today text.toList = today.yesterday? := by
    rw [date?, h]
    rfl
  rw [readDate_eq_ok_iff, hdate, Date.yesterday?, Date.ofNumber?_eq_some_iff]
  omega

theorem readDate_of_parts (htoday : lower (trim text.toList) ≠ "today".toList)
    (hyesterday : lower (trim text.toList) ≠ "yesterday".toList) :
    readDate today text = .ok d ↔
      ∃ y m k, PartsHold '-' text.toList [y, m, k] ∧
        d.IsNamed y.toInt m.toInt k.toInt := by
  rw [readDate_eq_ok_iff, date?]
  rw [if_neg htoday, if_neg hyesterday, dateOfParts?_eq_some_iff]
  simp only [partsHold_lower_trim_iff]

/-- The day before is missing for the first date only. -/
theorem forall_ne_yesterday_iff :
    (∀ d : Date, d.number + 1 ≠ today.number) ↔ ∀ d, today ≤ d := by
  constructor
  · intro h d
    have hfirst := d.first_le
    have hlast := today.le_last
    by_contra hlt
    have : d.number < today.number := Int.not_le.1 hlt
    exact h ⟨today.number - 1, by omega, by omega⟩ (Int.sub_add_cancel _ _)
  · intro h d heq
    have : today.number ≤ d.number := h d
    omega

/-- The words for a date, in any case and with blanks around them, are today
and the day before it, which the first date does not have. Any other text is a
date exactly when hyphens take it apart into three integers that name it by
year, month and day of the month, and is refused, with its text as it was
typed, exactly when they do not or what they name is no real day in range. So
a date reads back from its text if its year is 0 or later, and is refused if
it is earlier. -/
theorem readDate_exact (today : Date) :
    (∀ text, lower (trim text.toList) = "today".toList →
      readDate today text = .ok today) ∧
    (∀ text, lower (trim text.toList) = "yesterday".toList →
      (∀ d, readDate today text = .ok d ↔ d.number + 1 = today.number) ∧
      (readDate today text = .error (.date text) ↔ ∀ d, today ≤ d)) ∧
    (∀ text, lower (trim text.toList) ≠ "today".toList →
      lower (trim text.toList) ≠ "yesterday".toList →
      (∀ d, readDate today text = .ok d ↔
        ∃ y m k, PartsHold '-' text.toList [y, m, k] ∧
          d.IsNamed y.toInt m.toInt k.toInt) ∧
      (readDate today text = .error (.date text) ↔
        ∀ y m k, PartsHold '-' text.toList [y, m, k] →
          ¬((-262143 ≤ y.toInt ∧ y.toInt ≤ 262142) ∧
            Calendar.IsRealDay y.toInt m.toInt k.toInt))) ∧
    (∀ year month day, (∃! d : Date, d.IsNamed year month day) ↔
      (-262143 ≤ year ∧ year ≤ 262142) ∧ Calendar.IsRealDay year month day) ∧
    ∀ d : Date, (0 ≤ d.year → readDate today d.text = .ok d) ∧
      (9999 < d.year → ∃ rest, d.text.toList = '+' :: rest) ∧
      (d.year < 0 → readDate today d.text = .error (.date d.text)) := by
  refine ⟨fun text => readDate_of_today,
    fun text h => ⟨fun d => readDate_of_yesterday h, ?_⟩,
    fun text htoday hyesterday =>
      ⟨fun d => readDate_of_parts htoday hyesterday, ?_⟩,
    fun year month day => Date.existsUnique_isNamed_iff,
    fun d => ⟨readDate_text today, Date.text_of_lt, readDate_text_of_neg today⟩⟩
  · rw [readDate_eq_error_iff, ← forall_ne_yesterday_iff]
    simp only [ne_eq, readDate_of_yesterday h]
  · rw [readDate_eq_error_iff]
    simp only [ne_eq, readDate_of_parts htoday hyesterday]
    constructor
    · rintro h y m k hparts ⟨hyear, hday⟩
      obtain ⟨d, hd⟩ := Date.exists_isNamed hyear hday
      exact h d ⟨y, m, k, hparts, hd⟩
    · rintro h d ⟨y, m, k, hparts, hd⟩
      exact h y m k hparts hd.isRealDay

/-- The first date there is. -/
def firstDay : Date := ⟨Date.firstNumber, by decide, by decide⟩

/-- 2024-02-29. -/
def leapDay : Date := ⟨19782, by decide, by decide⟩

/-- The first day of the year 10000. -/
def lateDay : Date := ⟨2932897, by decide, by decide⟩

/-- The last day before the year 0. -/
def earlyDay : Date := ⟨-719529, by decide, by decide⟩

/-- On a leap day the words and the numbers for it are read in any case, with
signs, zeros and blanks; the same day of the year before is refused, as are
the day before the first one and a year before 0 as it is written. -/
theorem readDate_exact_leapDay :
    lower (trim "\u2003ToDay\n".toList) = "today".toList ∧
      readDate leapDay "\u2003ToDay\n" = .ok leapDay ∧
      lower (trim " YESTERDAY".toList) = "yesterday".toList ∧
      readDate leapDay " YESTERDAY" = .ok ⟨19781, by decide, by decide⟩ ∧
      readDate firstDay " YESTERDAY" = .error (.date " YESTERDAY") ∧
      PartsHold '-' " +2024- 02 -29\t".toList [2024, 2, 29] ∧
      leapDay.IsNamed 2024 2 29 ∧
      readDate firstDay " +2024- 02 -29\t" = .ok leapDay ∧
      readDate firstDay "2023-02-29" = .error (.date "2023-02-29") ∧
      9999 < lateDay.year ∧ readDate firstDay lateDay.text = .ok lateDay ∧
      earlyDay.year < 0 ∧
        readDate firstDay earlyDay.text = .error (.date earlyDay.text) := by
  have htoday : lower (trim "\u2003ToDay\n".toList) =
      "today".toList := by decide
  have hyesterday :
      lower (trim " YESTERDAY".toList) = "yesterday".toList := by decide
  have hparts : PartsHold '-' " +2024- 02 -29\t".toList [2024, 2, 29] :=
    .cons (by rfl) (.cons (by rfl) (.cons (by rfl) .nil))
  have hparts' : PartsHold '-' "2023-02-29".toList [2023, 2, 29] :=
    .cons (by rfl) (.cons (by rfl) (.cons (by rfl) .nil))
  have hname : leapDay.IsNamed 2024 2 29 := by decide
  have hlate : 9999 < lateDay.year := by decide
  have hearly : earlyDay.year < 0 := by decide
  obtain ⟨hreadToday, hreadYesterday, -⟩ := readDate_exact leapDay
  obtain ⟨-, hfirstYesterday, hread, -, htext⟩ := readDate_exact firstDay
  refine ⟨htoday, hreadToday _ htoday, hyesterday,
    ((hreadYesterday _ hyesterday).1 _).2 rfl,
    (hfirstYesterday _ hyesterday).2.2 fun d => d.first_le, hparts, hname,
    ((hread _ (by decide) (by decide)).1 _).2 ⟨_, _, _, hparts, hname⟩,
    (hread _ (by decide) (by decide)).2.2 fun y m k h => ?_, hlate,
    (htext lateDay).1 (by omega), hearly, (htext earlyDay).2.2 hearly⟩
  obtain ⟨rfl, rfl, rfl⟩ : y = 2023 ∧ m = 2 ∧ k = 29 := by
    simpa using h.unique hparts'
  decide

end Value

end Songbook
