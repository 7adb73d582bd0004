import Mathlib.Data.Prod.Lex
import Songbook.Proofs.CivilDays
import Songbook.Proofs.Outcomes

/-!
# Days and midnights

A test of days is a test of instants against midnights. To come before a day
is to come before the midnight that it starts with, and to come after it is to
come at or after the midnight of the next day, whatever is written after the
seconds: a leap second belongs to the second that it is written into, so it
lies in the day that ends with it.

Days are told apart by their numbers, and people tell them apart by year,
month and day of the month. The two orders are one. A year starts where the
year before it ends and so does a month, so of two days the earlier has the
earlier year, or the same year and the earlier month, or the same month and
the earlier place in it.
-/

namespace Songbook

namespace Calendar

/-! ## Days in order -/

theorem yearOfDay_mono {m n : Int} (h : m ≤ n) : yearOfDay m ≤ yearOfDay n :=
  le_yearOfDay_iff.2 (Int.le_trans (yearStart_le_and_lt m).1 h)

theorem dayOfYear_lt_of_lt {m n : Int} (h : m < n)
    (hyear : yearOfDay m = yearOfDay n) :
    dayOfYear m < dayOfYear n := by
  have hm := (yearStart_le_and_lt m).1
  rw [dayOfYear, dayOfYear, ← hyear]
  omega

theorem monthOfDay_mono {m n : Int} (h : m < n)
    (hyear : yearOfDay m = yearOfDay n) :
    monthOfDay m ≤ monthOfDay n := by
  by_contra hlt
  have hday := dayOfYear_lt_of_lt h hyear
  have hn : dayOfYear n <
      monthStart (isLeapYear (yearOfDay n)) (monthOfDay m) :=
    lt_monthStart_of_monthUpTo_lt (Nat.lt_of_not_le hlt)
      (monthUpTo_le _ _ (by decide))
  have hm := monthStart_add_placeInMonth m
  have hplace := (isCivil_of_day m).2.2.1
  rw [hyear] at hm
  omega

/-- Of two days the earlier one comes first by year, month and place in the
month. -/
theorem civil_lt_of_lt {m n : Int} (h : m < n) :
    yearOfDay m < yearOfDay n ∨ yearOfDay m = yearOfDay n ∧
      (monthOfDay m < monthOfDay n ∨ monthOfDay m = monthOfDay n ∧
        placeInMonth m < placeInMonth n) := by
  rcases Int.lt_or_eq_of_le (yearOfDay_mono (Int.le_of_lt h)) with hyear | hyear
  · exact .inl hyear
  · refine .inr ⟨hyear, ?_⟩
    rcases Nat.lt_or_eq_of_le (monthOfDay_mono h hyear) with hmonth | hmonth
    · exact .inl hmonth
    · refine .inr ⟨hmonth, ?_⟩
      have hday := dayOfYear_lt_of_lt h hyear
      have hm := monthStart_add_placeInMonth m
      have hn := monthStart_add_placeInMonth n
      rw [hyear, hmonth] at hm
      omega

end Calendar

namespace Date

open Songbook.Calendar

/-- Year, month and day of the month, compared in this order. -/
def civil (d : Date) : Int ×ₗ Nat ×ₗ Nat :=
  toLex (d.year, toLex (d.month, d.day))

theorem civil_lt_civil_of_lt {d e : Date} (h : d < e) : d.civil < e.civil := by
  rw [civil, civil, Prod.Lex.toLex_lt_toLex]
  simp only [Prod.Lex.toLex_lt_toLex]
  exact civil_lt_of_lt (Int.add_lt_add_right h epochDay)

theorem lt_iff_civil_lt {d e : Date} : d < e ↔ d.civil < e.civil := by
  refine ⟨civil_lt_civil_of_lt, fun h => ?_⟩
  rcases Int.lt_trichotomy d.number e.number with hlt | heq | hgt
  · exact hlt
  · have : d = e := by
      cases d
      cases e
      cases heq
      rfl
    rw [this] at h
    exact absurd h (lt_irrefl _)
  · exact absurd (civil_lt_civil_of_lt hgt) (lt_asymm h)

/-! ## Midnights -/

/-- The instant that a date starts with. -/
def midnight (d : Date) : Instant where
  seconds := d.number * secondsPerDay
  nanos := 0
  isValid := by
    have hfirst := d.first_le
    have hlast := d.le_last
    refine ⟨?_, ?_, by decide, fun h => absurd h (by decide)⟩
    · rw [secondsPerDay]
      omega
    · rw [secondsPerDay]
      omega

/-- The day after, if there is one in range. -/
def tomorrow? (d : Date) : Option Date :=
  ofNumber? (d.number + 1)

theorem exists_yesterday {d : Date} (h : d.number ≠ firstNumber) :
    ∃ yesterday, d.yesterday? = some yesterday ∧
      yesterday.number = d.number - 1 := by
  have hfirst := d.first_le
  have hlast := d.le_last
  exact ⟨⟨d.number - 1, by omega, by omega⟩, ofNumber?_eq_some_iff.2 rfl, rfl⟩

variable {d next : Date} {t : Instant}

theorem midnight_le_iff : d.midnight ≤ t ↔ d ≤ t.date := by
  show (d.number * secondsPerDay < t.seconds ∨
    d.number * secondsPerDay = t.seconds ∧ 0 ≤ t.nanos) ↔
      d.number ≤ t.seconds / secondsPerDay
  rw [secondsPerDay]
  omega

theorem lt_midnight_iff : t < d.midnight ↔ t.date < d := by
  rw [← Instant.not_le_iff_lt, midnight_le_iff]
  exact Int.not_le

theorem midnight_tomorrow_le_iff (h : d.tomorrow? = some next) :
    next.midnight ≤ t ↔ d < t.date := by
  have hnext := ofNumber?_eq_some_iff.1 h
  rw [midnight_le_iff]
  show next.number ≤ t.date.number ↔ d.number < t.date.number
  omega

theorem lt_midnight_tomorrow_iff (h : d.tomorrow? = some next) :
    t < next.midnight ↔ t.date ≤ d := by
  rw [← Instant.not_le_iff_lt, midnight_tomorrow_le_iff h]
  exact Int.not_lt

end Date

namespace Value

/-! ## The words for days -/

theorem readDate_today (today : Date) : readDate today "today" = .ok today := by
  rfl

theorem readDate_yesterday {today yesterday : Date}
    (h : today.yesterday? = some yesterday) :
    readDate today "yesterday" = .ok yesterday := by
  have hdate : date? today "yesterday".toList = today.yesterday? := rfl
  rw [readDate, hdate, h]

end Value

namespace Filter

variable {form : Form} {address : String} {now t : Instant} {song : Song}
  {field : DateField}

/-! ## Filters on days -/

theorem Leaf.holds_compile_calendar (ht : song.instant field = some t)
    (comparison : DayComparison Date) :
    ((Leaf.calendar field comparison).compile now).holds song = true ↔
      comparison.Allows t.date.number := by
  rw [holds_compile, Holds, ht]
  simp

/-- What a leaf on days asks of an instant is where it lies between midnights.
-/
theorem Leaf.holds_between_midnights (now : Instant)
    (ht : song.instant field = some t) :
    (∀ d, ((Leaf.calendar field (.before d)).compile now).holds song = true ↔
      t < d.midnight) ∧
      (∀ d next, d.tomorrow? = some next →
        (((Leaf.calendar field (.after d)).compile now).holds song = true ↔
          next.midnight ≤ t)) ∧
      ∀ lo hi next, hi.tomorrow? = some next →
        (((Leaf.calendar field (.inside ⟨lo, hi⟩)).compile now).holds
            song = true ↔ lo.midnight ≤ t ∧ t < next.midnight) ∧
        (((Leaf.calendar field (.outside ⟨lo, hi⟩)).compile now).holds
            song = true ↔ ¬(lo.midnight ≤ t ∧ t < next.midnight)) := by
  refine ⟨fun d => ?_, fun d next hnext => ?_, fun lo hi next hnext => ?_⟩
  · rw [holds_compile_calendar ht, Date.lt_midnight_iff]
    exact Iff.rfl
  · rw [holds_compile_calendar ht, Date.midnight_tomorrow_le_iff hnext]
    exact Iff.rfl
  · rw [holds_compile_calendar ht, holds_compile_calendar ht,
      Date.midnight_le_iff, Date.lt_midnight_tomorrow_iff hnext]
    exact ⟨Iff.rfl, Iff.rfl⟩

/-- The songs whose instant in a field passes a test of its seconds. -/
def songsAt (field : DateField) (test : Int → Bool) (songs : List Song) :
    List Song :=
  songs.filter fun song => (song.instant field).any fun t => test t.seconds

theorem mem_songsAt_iff {test : Int → Bool} {songs : List Song} :
    song ∈ songsAt field test songs ↔
      song ∈ songs ∧ ∃ t, song.instant field = some t ∧
        test t.seconds = true := by
  rw [songsAt, List.mem_filter, Option.any_eq_true]

theorem disjoint_songsAt {test other : Int → Bool} {songs : List Song}
    (h : ∀ seconds, test seconds = true → other seconds = false) :
    (songsAt field test songs).Disjoint (songsAt field other songs) := by
  intro song htest hother
  obtain ⟨-, t, ht, hp⟩ := mem_songsAt_iff.1 htest
  obtain ⟨-, u, hu, hq⟩ := mem_songsAt_iff.1 hother
  rw [ht] at hu
  cases hu
  rw [h _ hp] at hq
  cases hq

/-- Two seconds split the songs with an instant into those before both,
between them and after. -/
theorem songsAt_split {start stop : Int} (h : start ≤ stop)
    (songs : List Song) :
    let early := songsAt field (fun s => s < start) songs
    let same := songsAt field (fun s => start ≤ s ∧ s < stop) songs
    let late := songsAt field (fun s => stop ≤ s) songs
    (∀ song, song ∈ early ∨ song ∈ same ∨ song ∈ late ↔
      song ∈ songs ∧ (song.instant field).isSome) ∧
      early.Disjoint same ∧ early.Disjoint late ∧ same.Disjoint late := by
  intro early same late
  refine ⟨fun song => ?_, disjoint_songsAt fun s => ?_,
    disjoint_songsAt fun s => ?_, disjoint_songsAt fun s => ?_⟩
  · simp only [early, same, late, mem_songsAt_iff, decide_eq_true_eq]
    cases song.instant field with
    | none => simp
    | some t =>
        simp only [Option.some.injEq, exists_eq_left', Option.isSome_some,
          and_true]
        have : t.seconds < start ∨ (start ≤ t.seconds ∧ t.seconds < stop) ∨
            stop ≤ t.seconds := by
          omega
        tauto
  · simp only [decide_eq_true_eq, decide_eq_false_iff_not]
    omega
  · simp only [decide_eq_true_eq, decide_eq_false_iff_not]
    omega
  · simp only [decide_eq_true_eq, decide_eq_false_iff_not]
    omega

/-- A filter that is one leaf on days tests seconds, if the days that the leaf
allows are those of the seconds that pass. -/
theorem run_eq_songsAt {texts : DayComparison String} {test : Int → Bool}
    (days : DayComparison Date)
    (hr : form.resolve address = .ok (.leaf (.calendar field texts)))
    (hd : buildLeaf now.date address (.calendar field texts) =
      .ok (.leaf (.calendar field days)))
    (htest : ∀ seconds,
      days.Allows (seconds / secondsPerDay) ↔ test seconds = true)
    (visible : Except CatalogError (List Song)) :
    run form address visible now = visible.map fun songs =>
      .filtered (songsAt field test songs) 1 := by
  have hbuild : build form address now.date =
      .ok (.leaf (.calendar field days)) :=
    buildWithin_succ_eq_ok_iff.2 (.inr (.inl ⟨_, hr, hd⟩))
  have hsongs : ∀ songs : List Song,
      songs.filter (fun song =>
        (Node.leaf (.calendar field days)).Holds now song) =
        songsAt field test songs := by
    intro songs
    refine List.filter_congr fun song _ => ?_
    rw [Bool.eq_iff_iff, decide_eq_true_eq, Option.any_eq_true, Node.Holds,
      Leaf.Holds]
    exact exists_congr fun t => and_congr_right fun _ => htest t.seconds
  rw [run, hbuild]
  simp only [Built.run_of_node_eq_some Built.isBalanced_leaf rfl rfl, hsongs]
  rfl

/-- What a leaf on days asks of an instant is where it lies between midnights,
and the midnights come in the order of years, months and days of the month.
Read from a form, the word `today` stands for the UTC day of the present and
`yesterday` for the 86400 seconds before it, so the songs of both days are
those from 86400 seconds before the day starts until 86400 seconds after, and
every song with the instant is before today, in it or after it, in one of the
three and no other. -/
theorem calendar_agrees_with_instants (now : Instant) (field : DateField) :
    let start := now.date.midnight.seconds
    (∀ song t, song.instant field = some t →
      (∀ d, ((Leaf.calendar field (.before d)).compile now).holds song = true ↔
        t < d.midnight) ∧
      (∀ d next, d.tomorrow? = some next →
        (((Leaf.calendar field (.after d)).compile now).holds song = true ↔
          next.midnight ≤ t)) ∧
      (∀ lo hi next, hi.tomorrow? = some next →
        (((Leaf.calendar field (.inside ⟨lo, hi⟩)).compile now).holds
            song = true ↔ lo.midnight ≤ t ∧ t < next.midnight) ∧
        (((Leaf.calendar field (.outside ⟨lo, hi⟩)).compile now).holds
            song = true ↔ ¬(lo.midnight ≤ t ∧ t < next.midnight))) ∧
      ∀ d : Date, t < d.midnight ↔ t.date.civil < d.civil) ∧
    (now.date.number ≠ Date.firstNumber → ∀ (form : Form) address,
      form.resolve address =
        .ok (.leaf (.calendar field (.inside ⟨"yesterday", "today"⟩))) →
      ∀ visible, run form address visible now = visible.map fun songs =>
        .filtered (songsAt field
          (fun s => start - 86400 ≤ s ∧ s < start + 86400) songs) 1) ∧
    ∀ songs,
      let early := songsAt field (fun s => s < start) songs
      let same := songsAt field (fun s => start ≤ s ∧ s < start + 86400) songs
      let late := songsAt field (fun s => start + 86400 ≤ s) songs
      (∀ (form : Form) address,
        form.resolve address = .ok (.leaf (.calendar field (.before "today"))) →
        run form address (.ok songs) now = .ok (.filtered early 1)) ∧
      (∀ (form : Form) address,
        form.resolve address =
          .ok (.leaf (.calendar field (.inside ⟨"today", "today"⟩))) →
        run form address (.ok songs) now = .ok (.filtered same 1)) ∧
      (∀ (form : Form) address,
        form.resolve address = .ok (.leaf (.calendar field (.after "today"))) →
        run form address (.ok songs) now = .ok (.filtered late 1)) ∧
      (∀ song, song ∈ early ∨ song ∈ same ∨ song ∈ late ↔
        song ∈ songs ∧ (song.instant field).isSome) ∧
      early.Disjoint same ∧ early.Disjoint late ∧ same.Disjoint late := by
  intro start
  have hstart : start = now.date.number * 86400 := rfl
  refine ⟨fun song t ht => ?_, fun hfirst form address hr visible => ?_,
    fun songs => ⟨fun form address hr => ?_, fun form address hr => ?_,
      fun form address hr => ?_, songsAt_split (by omega) songs⟩⟩
  · obtain ⟨hbefore, hafter, hinside⟩ := Leaf.holds_between_midnights now ht
    exact ⟨hbefore, hafter, hinside, fun d => by
      rw [Date.lt_midnight_iff, Date.lt_iff_civil_lt]⟩
  · obtain ⟨yesterday, hyesterday, hnumber⟩ := Date.exists_yesterday hfirst
    refine run_eq_songsAt (.inside ⟨yesterday, now.date⟩) hr ?_
      (fun seconds => ?_) visible
    · simp only [buildLeaf, DayComparison.traverse, Interval.traverse,
        Value.readDate_yesterday hyesterday, Value.readDate_today]
      rfl
    · rw [DayComparison.Allows, hstart, secondsPerDay, decide_eq_true_eq]
      dsimp only
      omega
  · refine run_eq_songsAt (.before now.date) hr ?_
      (fun seconds => ?_) (.ok songs)
    · simp only [buildLeaf, DayComparison.traverse, Value.readDate_today]
      rfl
    · rw [DayComparison.Allows, hstart, secondsPerDay, decide_eq_true_eq]
      omega
  · refine run_eq_songsAt (.inside ⟨now.date, now.date⟩) hr ?_
      (fun seconds => ?_) (.ok songs)
    · simp only [buildLeaf, DayComparison.traverse, Interval.traverse,
        Value.readDate_today]
      rfl
    · rw [DayComparison.Allows, hstart, secondsPerDay, decide_eq_true_eq]
      dsimp only
      omega
  · refine run_eq_songsAt (.after now.date) hr ?_
      (fun seconds => ?_) (.ok songs)
    · simp only [buildLeaf, DayComparison.traverse, Value.readDate_today]
      rfl
    · rw [DayComparison.Allows, hstart, secondsPerDay, decide_eq_true_eq]
      omega

/-- A song that was added in the leap second at the end of 2016. -/
def sampleLeap : Song :=
  ⟨⟨1⟩, "", "", "", 0, 0, 0, ⟨1483228799, 1500000000, by decide⟩, none, true⟩

/-- A song that was added when 2017 began. -/
def sampleNewYear : Song :=
  ⟨⟨2⟩, "", "", "", 0, 0, 0, ⟨1483228800, 0, by decide⟩, none, true⟩

/-- Four filters side by side. -/
def sampleDays : Form :=
  .ofList [
    ("k", "date_added"), ("k_r", "inside"), ("k_f0", "yesterday"),
    ("k_f1", "today"), ("early", "date_added"), ("early_r", "before"),
    ("early_f0", "today"), ("same", "date_added"), ("same_r", "inside"),
    ("same_f0", "today"), ("same_f1", "today"), ("late", "date_added"),
    ("late_r", "after"), ("late_f0", "today")]

/-- Asked within the leap second at the end of 2016, both the last two days
and the last one take in that second and nothing of the year after it. -/
theorem calendar_agrees_with_instants_leapSecond :
    let now := sampleLeap.dateAdded
    let songs := [sampleLeap, sampleNewYear]
    let newYear := sampleNewYear.dateAdded.date
    now.date.number ≠ Date.firstNumber ∧ now.date.tomorrow? = some newYear ∧
      run sampleDays "k" (.ok songs) now = .ok (.filtered [sampleLeap] 1) ∧
      run sampleDays "early" (.ok songs) now = .ok (.filtered [] 1) ∧
      run sampleDays "same" (.ok songs) now = .ok (.filtered [sampleLeap] 1) ∧
      run sampleDays "late" (.ok songs) now =
        .ok (.filtered [sampleNewYear] 1) ∧
      ((Leaf.calendar .dateAdded (.before newYear)).compile now).holds
        sampleLeap = true ∧
      ((Leaf.calendar .dateAdded (.after now.date)).compile now).holds
        sampleNewYear = true ∧
      ((Leaf.calendar .dateAdded (.inside ⟨now.date, now.date⟩)).compile
        now).holds sampleLeap =
        true := by
  intro now songs newYear
  have hfirst : now.date.number ≠ Date.firstNumber := by decide
  have hnext : now.date.tomorrow? = some newYear := by decide
  obtain ⟨hleaf, hdays, hthree⟩ := calendar_agrees_with_instants now .dateAdded
  obtain ⟨hbefore, -⟩ := hleaf sampleLeap now rfl
  obtain ⟨-, -, hinside, -⟩ := hleaf sampleLeap now rfl
  obtain ⟨-, hafter, -⟩ := hleaf sampleNewYear _ rfl
  obtain ⟨hearly, hsame, hlate, -⟩ := hthree songs
  refine ⟨hfirst, hnext, ?_, ?_, ?_, ?_, (hbefore _).2 ?_,
    (hafter _ _ hnext).2 ?_, (hinside _ _ _ hnext).1.2 ?_⟩
  · rw [hdays hfirst sampleDays "k" (by decide)]
    rfl
  · rw [hearly sampleDays "early" (by decide)]
    rfl
  · rw [hsame sampleDays "same" (by decide)]
    rfl
  · rw [hlate sampleDays "late" (by decide)]
    rfl
  · decide
  · decide
  · decide

end Filter

end Songbook
