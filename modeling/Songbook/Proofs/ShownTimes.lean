import Songbook.Proofs.Sexagesimal
import Songbook.Song.Basic

/-!
# Durations as they are shown

A duration is shown by dividing toward zero, so all its parts have its own
sign, and it is read by summing parts that have signs of their own. Where the
parts that are shown make up the whole, the two are inverse, for negative
durations too.

They do not always make up the whole. Hours are shown only when they are
positive, and minutes are what is left of the hour, so of a duration of minus
one hour or less the hours are lost. Such a song shows what is left once its
hours are taken away, the same as the song that lasts only so long.
`shownSeconds` is what remains to be seen.
-/

namespace Songbook

namespace Text

variable {s : List Char}

theorem isNumeral_digits (width n : Nat) : IsNumeral (digits width n) n := by
  obtain ⟨hne, hdigits, hvalue⟩ :=
    natural?_eq_some_iff.1 (natural?_digits width n)
  have := IsNumeral.plain hne hdigits
  rwa [hvalue] at this

theorem isNumeral_minus_digits (width n : Nat) :
    IsNumeral ('-' :: digits width n) (-n) := by
  obtain ⟨hne, hdigits, hvalue⟩ :=
    natural?_eq_some_iff.1 (natural?_digits width n)
  have := IsNumeral.minus hne hdigits
  rwa [hvalue] at this

theorem isNumeral_decimal (n : Int) : IsNumeral (decimal n).toList n :=
  zeroFilled_zero n ▸ isNumeral_zeroFilled 0 n

theorem IsNumeral.colon_not_mem {n : Int} (h : IsNumeral s n) : ':' ∉ s := by
  cases h with
  | plain hne hdigits => exact fun hc => absurd (hdigits ':' hc) (by decide)
  | plus hne hdigits | minus hne hdigits =>
      intro hc
      rcases List.mem_cons.1 hc with hc | hc
      · exact absurd hc (by decide)
      · exact absurd (hdigits ':' hc) (by decide)

end Text

namespace Value

open Songbook.Text

variable {text : String} {counts : List Int64} {v : Int64}

theorem readInteger_of_isNumeral {s : List Char} {n : Int64}
    (h : IsNumeral s n.toInt) :
    readInteger (String.ofList s) = .ok n := by
  rw [readInteger_ofList_eq_ok_iff, integer?_eq_some_iff]
  exact ⟨[], s, [], rfl, rfl, by simp, h⟩

theorem PartsHold.readDuration_eq (h : PartsHold ':' text.toList counts)
    (hfew : counts.length ≤ 3) (hsign : HaveOneSign 0 counts)
    (hv : v.toInt = exactSeconds counts) :
    readDuration text = .ok v := by
  have hparts : ¬HasExcessParts text := by
    rw [HasExcessParts, h.length_eq]
    exact Nat.not_lt.2 hfew
  obtain ⟨w, hw⟩ := (h.exists_ok_iff_fits hparts hsign).2 (hv ▸ fits_toInt v)
  rw [hw, Int64.toInt_inj.1 ((h.toInt_eq hparts hw).trans hv.symm)]

end Value

namespace Song

open Songbook.Text Songbook.Value

variable {song other : Song}

theorem isNumeral_twoPlaces (n : Int) : IsNumeral (twoPlaces n) n := by
  rw [twoPlaces]
  split
  · next h =>
    have := isNumeral_minus_digits 1 n.natAbs
    rwa [show -(n.natAbs : Int) = n by omega] at this
  · next h =>
    have := isNumeral_digits 2 n.natAbs
    rwa [show (n.natAbs : Int) = n by omega] at this

/-- Division toward zero is division of what there is beside the sign. -/
theorem tdiv_tmod_cases (t b : Int) :
    (0 ≤ t ∧ t.tdiv b = t / b ∧ t.tmod b = t % b) ∨
      (t < 0 ∧ t.tdiv b = -(-t / b) ∧ t.tmod b = -(-t % b)) := by
  rcases Int.lt_or_le t 0 with h | h
  · refine .inr ⟨h, ?_, ?_⟩
    · rw [← Int.tdiv_eq_ediv_of_nonneg (by omega), Int.neg_tdiv, Int.neg_neg]
    · rw [← Int.tmod_eq_emod_of_nonneg (by omega), Int.neg_tmod, Int.neg_neg]
  · exact .inl ⟨h, Int.tdiv_eq_ediv_of_nonneg h, Int.tmod_eq_emod_of_nonneg h⟩

/-- What is left of the duration of a song where it is shown. -/
def shownSeconds (song : Song) : Int :=
  if song.time.toInt ≤ -3600 then song.time.toInt.tmod 3600 else song.time.toInt

theorem shownSeconds_cases (song : Song) :
    (song.time.toInt ≤ -3600 ∧ song.shownSeconds = song.time.toInt.tmod 3600) ∨
      (-3600 < song.time.toInt ∧ song.shownSeconds = song.time.toInt) := by
  rw [shownSeconds]
  split
  · next h => exact .inl ⟨h, rfl⟩
  · next h => exact .inr ⟨by omega, rfl⟩

theorem timeText_of_lt (h : song.time.toInt < 3600) :
    song.timeText.toList =
      (decimal (song.shownSeconds.tdiv 60)).toList ++
        ':' :: twoPlaces (song.shownSeconds.tmod 60) := by
  have hhours := tdiv_tmod_cases song.time.toInt 3600
  have hshown := song.shownSeconds_cases
  have hminutes : song.time.toInt.tmod 3600 = song.shownSeconds := by omega
  have hrest : song.time.toInt.tmod 60 = song.shownSeconds.tmod 60 := by
    have htime := tdiv_tmod_cases song.time.toInt 60
    have hleft := tdiv_tmod_cases song.shownSeconds 60
    omega
  rw [timeText, if_neg (by omega), String.toList_append, String.toList_ofList,
    hminutes, hrest]

theorem timeText_of_le (h : 3600 ≤ song.time.toInt) :
    song.timeText.toList = (decimal (song.time.toInt.tdiv 3600)).toList ++
      ':' :: (twoPlaces ((song.time.toInt.tmod 3600).tdiv 60) ++
        ':' :: twoPlaces (song.time.toInt.tmod 60)) := by
  have hhours := tdiv_tmod_cases song.time.toInt 3600
  rw [timeText, if_pos (by omega), String.toList_append, String.toList_ofList]
  rfl

theorem partsHold_of_lt {minutes rest : Int64} (h : song.time.toInt < 3600)
    (hminutes : minutes.toInt = song.shownSeconds.tdiv 60)
    (hrest : rest.toInt = song.shownSeconds.tmod 60) :
    PartsHold ':' song.timeText.toList [minutes, rest] := by
  rw [PartsHold, timeText_of_lt h, ← hminutes, ← hrest,
    List.splitOn_append_cons_self_of_not_mem
      (isNumeral_decimal _).colon_not_mem,
    List.splitOn_eq_singleton (isNumeral_twoPlaces _).colon_not_mem]
  exact .cons (readInteger_of_isNumeral (isNumeral_decimal _))
    (.cons (readInteger_of_isNumeral (isNumeral_twoPlaces _)) .nil)

theorem partsHold_of_le {hours minutes rest : Int64}
    (h : 3600 ≤ song.time.toInt)
    (hhours : hours.toInt = song.time.toInt.tdiv 3600)
    (hminutes : minutes.toInt = (song.time.toInt.tmod 3600).tdiv 60)
    (hrest : rest.toInt = song.time.toInt.tmod 60) :
    PartsHold ':' song.timeText.toList [hours, minutes, rest] := by
  rw [PartsHold, timeText_of_le h, ← hhours, ← hminutes, ← hrest,
    List.splitOn_append_cons_self_of_not_mem
      (isNumeral_decimal _).colon_not_mem,
    List.splitOn_append_cons_self_of_not_mem
      (isNumeral_twoPlaces _).colon_not_mem,
    List.splitOn_eq_singleton (isNumeral_twoPlaces _).colon_not_mem]
  exact .cons (readInteger_of_isNumeral (isNumeral_decimal _))
    (.cons (readInteger_of_isNumeral (isNumeral_twoPlaces _))
      (.cons (readInteger_of_isNumeral (isNumeral_twoPlaces _)) .nil))

theorem exists_readDuration_timeText (song : Song) :
    ∃ v, readDuration song.timeText = .ok v ∧ v.toInt = song.shownSeconds := by
  have htime := fits_toInt song.time
  have hhours := tdiv_tmod_cases song.time.toInt 3600
  have hshown := song.shownSeconds_cases
  rw [Fits] at htime
  rcases Int.lt_or_le song.time.toInt 3600 with hlt | hle
  · have hparts := tdiv_tmod_cases song.shownSeconds 60
    obtain ⟨v, hv⟩ :=
      Fits.exists_toInt_eq (n := song.shownSeconds) ⟨by omega, by omega⟩
    obtain ⟨minutes, hminutes⟩ :=
      Fits.exists_toInt_eq (n := song.shownSeconds.tdiv 60)
      ⟨by omega, by omega⟩
    obtain ⟨rest, hrest⟩ :=
      Fits.exists_toInt_eq (n := song.shownSeconds.tmod 60)
      ⟨by omega, by omega⟩
    have hcounts := partsHold_of_lt hlt hminutes hrest
    refine ⟨v, hcounts.readDuration_eq (Nat.le_succ 2) ?_ ?_, hv⟩
    · simp only [HaveOneSign, List.forall_mem_cons, List.not_mem_nil,
        false_implies, implies_true, and_true]
      omega
    · rw [exactSeconds_pair]
      omega
  · have hminutes' := tdiv_tmod_cases (song.time.toInt.tmod 3600) 60
    have hrest' := tdiv_tmod_cases song.time.toInt 60
    obtain ⟨hours, hhours'⟩ :=
      Fits.exists_toInt_eq (n := song.time.toInt.tdiv 3600)
      ⟨by omega, by omega⟩
    obtain ⟨minutes, hminutes⟩ :=
      Fits.exists_toInt_eq (n := (song.time.toInt.tmod 3600).tdiv 60)
        ⟨by omega, by omega⟩
    obtain ⟨rest, hrest⟩ := Fits.exists_toInt_eq (n := song.time.toInt.tmod 60)
      ⟨by omega, by omega⟩
    have hcounts := partsHold_of_le hle hhours' hminutes hrest
    refine ⟨song.time, hcounts.readDuration_eq (Nat.le_refl 3) ?_ ?_, ?_⟩
    · simp only [HaveOneSign, List.forall_mem_cons, List.not_mem_nil,
        false_implies, implies_true, and_true]
      omega
    · rw [exactSeconds_triple]
      omega
    · omega

theorem readDuration_timeText_iff :
    readDuration song.timeText = .ok song.time ↔ -3600 < song.time.toInt := by
  obtain ⟨v, hv, hseconds⟩ := exists_readDuration_timeText song
  have hhours := tdiv_tmod_cases song.time.toInt 3600
  have hshown := song.shownSeconds_cases
  rw [hv, Except.ok.injEq, ← Int64.toInt_inj, hseconds]
  omega

/-- Songs show the same exactly when the same is left of their durations. -/
theorem timeText_eq_iff : song.timeText = other.timeText ↔
    song.shownSeconds = other.shownSeconds := by
  constructor
  · intro h
    obtain ⟨v, hv, hseconds⟩ := exists_readDuration_timeText song
    obtain ⟨w, hw, hseconds'⟩ := exists_readDuration_timeText other
    rw [h, hw] at hv
    rw [← hseconds, ← hseconds', Except.ok.inj hv]
  · intro h
    have hsong := tdiv_tmod_cases song.time.toInt 3600
    have hother := tdiv_tmod_cases other.time.toInt 3600
    have hshown := song.shownSeconds_cases
    have hshown' := other.shownSeconds_cases
    rcases Int.lt_or_le song.time.toInt 3600 with hlt | hle
    · have hlt' : other.time.toInt < 3600 := by omega
      rw [← String.toList_inj, timeText_of_lt hlt, timeText_of_lt hlt', h]
    · have htime : song.time = other.time := Int64.toInt_inj.1 (by omega)
      rw [timeText, timeText, htime]

/-- What a song shows reads back as its duration exactly when it is more than
minus one hour. Of any other song what reads back is what is left once its
hours are taken away, and that is all that its text tells: another song shows
the same exactly when the same is left of it. So no two songs that last more
than minus one hour show the same unless they last as long. -/
theorem timeText_reads_back_iff (song : Song) :
    (readDuration song.timeText = .ok song.time ↔ -3600 < song.time.toInt) ∧
    (song.time.toInt ≤ -3600 → ∃ v, readDuration song.timeText = .ok v ∧
      v.toInt = song.time.toInt.tmod 3600) ∧
    ∀ other : Song, (song.timeText = other.timeText ↔
      song.shownSeconds = other.shownSeconds) ∧
      (-3600 < song.time.toInt → -3600 < other.time.toInt →
        song.time ≠ other.time → song.timeText ≠ other.timeText) := by
  refine ⟨readDuration_timeText_iff, fun hsong => ?_,
    fun other => ⟨timeText_eq_iff, fun hsong hother hne heq => hne ?_⟩⟩
  · obtain ⟨v, hv, hseconds⟩ := exists_readDuration_timeText song
    rw [shownSeconds, if_pos hsong] at hseconds
    exact ⟨v, hv, hseconds⟩
  · have hreads := readDuration_timeText_iff.2 hsong
    rw [heq, readDuration_timeText_iff.2 hother] at hreads
    exact (Except.ok.inj hreads).symm

/-- A song of some duration. -/
def lasting (time : Int64) : Song :=
  ⟨⟨0⟩, "", "", "", 0, time, 0, .first, none, true⟩

/-- A negative duration of less than an hour reads back and is shown by no
other song; of the least one only half an hour does. -/
theorem timeText_reads_back_sample :
    let short := lasting (-3599)
    let least := lasting Int64.minValue
    short.timeText = "-59:-59" ∧ -3600 < short.time.toInt ∧
      readDuration short.timeText = .ok short.time ∧
      least.timeText = "-30:-8" ∧ least.time.toInt ≤ -3600 ∧
      (∃ v, readDuration least.timeText = .ok v ∧ v.toInt = -1808) ∧
      -3600 < (lasting 0).time.toInt ∧
        short.timeText ≠ (lasting 0).timeText := by
  intro short least
  have hshort : -3600 < short.time.toInt := by decide
  have hleast : least.time.toInt ≤ -3600 := by decide
  have hzero : -3600 < (lasting 0).time.toInt := by decide
  obtain ⟨hback, -, hapart⟩ := timeText_reads_back_iff short
  obtain ⟨-, hlost, -⟩ := timeText_reads_back_iff least
  exact ⟨by decide +kernel, hshort, hback.2 hshort, by decide +kernel, hleast,
    hlost hleast, hzero, (hapart (lasting 0)).2 hshort hzero (by decide)⟩

/-- The duration of minus one hour, which can be given to a song, is shown as
none at all. -/
theorem timeText_loses_hours :
    readDuration "-1:00:00" = .ok (-3600) ∧
      (lasting (-3600)).timeText = "0:00" ∧
      readDuration (lasting (-3600)).timeText = .ok 0 ∧
      (lasting (-3600)).timeText = (lasting 0).timeText := by
  decide +kernel

end Song

end Songbook
