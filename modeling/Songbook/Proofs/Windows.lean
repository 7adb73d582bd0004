import Mathlib.Data.Prod.Lex
import Songbook.Proofs.Meaning

/-!
# Windows are exact

A relative window is found in three steps, and each of them is kept within
bounds: the length of the window within the longest span, the instant where it
begins within the instants there are, and what would be no instant is replaced
by the first or the last. None of this shows. A moment that lies outside the
instants compares with all of them alike, so it may be replaced by the end
that it lies beyond, and a span that was cut short still reaches beyond that
end, as no two instants are so far apart.

The moment itself is a whole number of nanoseconds without bounds, and what is
compared are seconds first and nanoseconds next. The last instant is left out:
it stands for the moments after all instants, so a window that begins at one
of those would take it in.
-/

namespace Songbook

namespace Instant

/-- The seconds and nanoseconds of a moment that lies so many nanoseconds
after the start of 1970, whether or not an instant can hold it. -/
def moment (n : Int) : Int ×ₗ Int :=
  toLex (n / 1000000000, n % 1000000000)

/-- An instant as two numbers of any size, compared by the first and then by
the second. -/
def reading (t : Instant) : Int ×ₗ Int :=
  toLex (t.seconds, (t.nanos : Int))

/-- The nanoseconds from the start of 1970, leap seconds not counted. -/
def sinceEpoch (t : Instant) : Int :=
  t.seconds * 1000000000 + t.nanos

variable {now t : Instant}

theorem nanos_lt (h : t.inLeapSecond = false) : t.nanos < 1000000000 := by
  simpa [inLeapSecond] using h

theorem le_iff_reading_le {a b : Instant} : a ≤ b ↔ a.reading ≤ b.reading := by
  rw [reading, reading, Prod.Lex.toLex_le_toLex]
  show (a.seconds < b.seconds ∨ a.seconds = b.seconds ∧ a.nanos ≤ b.nanos) ↔ _
  simp

theorem moment_le_reading_iff {n : Int} : moment n ≤ t.reading ↔
    n / 1000000000 < t.seconds ∨ n / 1000000000 = t.seconds ∧
      n % 1000000000 ≤ t.nanos := by
  rw [moment, reading, Prod.Lex.toLex_le_toLex]

theorem moment_mono {m n : Int} (h : m ≤ n) : moment m ≤ moment n := by
  rw [moment, moment, Prod.Lex.toLex_le_toLex]
  dsimp only
  omega

/-- Outside leap seconds the way back is plain subtraction, as far as there
are instants. -/
theorem earlier?_of_not_inLeapSecond (h : now.inLeapSecond = false)
    (milliseconds : Int) :
    now.earlier? milliseconds =
      of? ((now.sinceEpoch - milliseconds * 1000000) / 1000000000)
        ((now.sinceEpoch - milliseconds * 1000000) % 1000000000).toNat := by
  have hnanos := nanos_lt h
  unfold earlier?
  split
  · next hzero =>
    symm
    rw [hzero, of?_eq_some_iff, sinceEpoch]
    omega
  · have hsubsecond : now.subsecond = now.nanos := Nat.mod_eq_of_lt hnanos
    simp only [h, Bool.false_and, Bool.false_eq_true, if_false, Int.add_zero,
      hsubsecond, sinceEpoch]

theorem first_le_seconds (t : Instant) : first.seconds ≤ t.seconds :=
  t.isValid.1

theorem seconds_le_last (t : Instant) : t.seconds ≤ last.seconds :=
  Int.le_sub_one_of_lt t.isValid.2.1

theorem first_le (t : Instant) : first ≤ t := by
  rw [le_iff_reading_le, reading, reading, Prod.Lex.toLex_le_toLex]
  have hnanos : first.nanos = 0 := rfl
  have := first_le_seconds t
  rw [hnanos]
  dsimp only
  omega

/-- A moment is that of an instant unless it lies before all of them or after
all of them. -/
theorem of?_moment (n : Int) :
    (∃ start, of? (n / 1000000000) (n % 1000000000).toNat = some start ∧
      start.reading = moment n) ∨
    (of? (n / 1000000000) (n % 1000000000).toNat = none ∧
      n / 1000000000 < first.seconds) ∨
    (of? (n / 1000000000) (n % 1000000000).toNat = none ∧
      last.seconds < n / 1000000000) := by
  cases hstart : of? (n / 1000000000) (n % 1000000000).toNat with
  | some start =>
      obtain ⟨hseconds, hnanos⟩ := of?_eq_some_iff.1 hstart
      refine .inl ⟨start, rfl, ?_⟩
      rw [reading, moment, hseconds, hnanos]
      have : ((n % 1000000000).toNat : Int) = n % 1000000000 := by omega
      rw [this]
  | none =>
      refine .inr ?_
      unfold of? at hstart
      split at hstart
      · cases hstart
      · next hvalid =>
        have hbeyond : n / 1000000000 < Date.firstNumber * secondsPerDay ∨
            (Date.lastNumber + 1) * secondsPerDay - 1 < n / 1000000000 := by
          rw [IsValid] at hvalid
          omega
        exact hbeyond.imp (⟨rfl, ·⟩) (⟨rfl, ·⟩)

end Instant

/-- A span is the product of count and length, or, where that is too long, a
span too long to begin at an instant. -/
theorem TimeUnit.span_cases (unit : TimeUnit) (count : Int64) :
    unit.span count = count.toInt * unit.length ∨
    (unit.span count = maxSpan ∧ maxSpan < count.toInt * unit.length) ∨
    (unit.span count = -maxSpan ∧ count.toInt * unit.length < -maxSpan) := by
  rw [span, Int.mul_comm unit.length]
  have : 0 < maxSpan := by decide
  omega

namespace Instant

variable {now t : Instant}

/-- To put an end of time in place of a moment beyond it makes no difference
to the instants before the last. -/
theorem getD_earlier?_le_iff (hnow : now.inLeapSecond = false)
    (hlast : t < last) (milliseconds : Int) :
    (now.earlier? milliseconds).getD
      (if 0 < milliseconds then first else last) ≤ t ↔
      moment (now.sinceEpoch - milliseconds * 1000000) ≤ t.reading := by
  rw [earlier?_of_not_inLeapSecond hnow]
  rcases of?_moment (now.sinceEpoch - milliseconds * 1000000) with ⟨start,
      hstart, hreading⟩ |
    ⟨hstart, hbefore⟩ | ⟨hstart, hafter⟩
  · rw [hstart, Option.getD_some, le_iff_reading_le, hreading]
  · have hpos : 0 < milliseconds := by
      have := first_le_seconds now
      rw [sinceEpoch] at hbefore
      omega
    rw [hstart, Option.getD_none, if_pos hpos]
    refine iff_of_true (first_le t) (moment_le_reading_iff.2 (.inl ?_))
    have := first_le_seconds t
    omega
  · have hneg : ¬0 < milliseconds := by
      have := seconds_le_last now
      have hnanos := nanos_lt hnow
      rw [sinceEpoch] at hafter
      omega
    rw [hstart, Option.getD_none, if_neg hneg]
    refine iff_of_false (not_le_iff_lt.2 hlast) ?_
    rw [moment_le_reading_iff]
    have := seconds_le_last t
    omega

/-- A span that was cut short leads beyond the same end of time as the product
that it was cut from. -/
theorem moment_span_le_iff (hnow : now.inLeapSecond = false) (count : Int64)
    (unit : TimeUnit) :
    moment (now.sinceEpoch - unit.span count * 1000000) ≤ t.reading ↔
      moment (now.sinceEpoch - count.toInt * unit.length * 1000000) ≤
        t.reading := by
  have hnanos := nanos_lt hnow
  obtain ⟨hnow_first, hnow_end, -⟩ := now.isValid
  obtain ⟨ht_first, ht_end, -⟩ := t.isValid
  simp only [Date.firstNumber, Date.lastNumber, secondsPerDay]
    at hnow_first hnow_end ht_first ht_end
  rw [moment_le_reading_iff, moment_le_reading_iff, sinceEpoch]
  rcases unit.span_cases count with hspan | ⟨hspan, hlong⟩ | ⟨hspan, hlong⟩
  · rw [hspan]
  · rw [hspan]
    generalize count.toInt * unit.length = product at hlong ⊢
    rw [TimeUnit.maxSpan] at hlong ⊢
    refine iff_of_true (.inl ?_) (.inl ?_)
    · omega
    · omega
  · rw [hspan]
    generalize count.toInt * unit.length = product at hlong ⊢
    rw [TimeUnit.maxSpan] at hlong ⊢
    refine iff_of_false ?_ ?_
    · omega
    · omega

/-- Every instant before the last lies on the same side of where a window
begins as of the moment where it ought to begin. -/
theorem windowStart_le_iff (hnow : now.inLeapSecond = false) (hlast : t < last)
    (count : Int64) (unit : TimeUnit) : now.windowStart count unit ≤ t ↔
      moment (now.sinceEpoch - count.toInt * unit.length * 1000000) ≤
        t.reading := by
  rw [← moment_span_le_iff hnow]
  exact getD_earlier?_le_iff hnow hlast _

end Instant

namespace Filter

variable {now t : Instant} {song : Song} {field : DateField}

theorem Leaf.holds_recent (ht : song.instant field = some t) (count : Int64)
    (unit : TimeUnit) :
    ((recent field count unit false).Holds now song ↔
      now.windowStart count unit ≤ t) ∧
      ((recent field count unit true).Holds now song ↔
        t < now.windowStart count unit) := by
  rw [Holds, Holds, ht]
  simp

/-- A leaf that looks back from the present takes a song in exactly when its
instant is not before the present less so many times the length of the unit,
reckoned without bounds, and its opposite takes it in exactly when it is;
whatever the count, the least and the greatest included, and wherever in time
the present lies, unless in a leap second. A greater count loses no song. -/
theorem recent_exact {now t : Instant} {song : Song} {field : DateField}
    (hnow : now.inLeapSecond = false) (ht : song.instant field = some t)
    (hlast : t < Instant.last) (unit : TimeUnit) (count : Int64) :
    (((Leaf.recent field count unit false).compile now).holds song = true ↔
      Instant.moment
        (now.sinceEpoch - count.toInt * unit.length * 1000000) ≤ t.reading) ∧
    (((Leaf.recent field count unit true).compile now).holds song = true ↔
      t.reading < Instant.moment
        (now.sinceEpoch - count.toInt * unit.length * 1000000)) ∧
    ∀ more, count ≤ more →
      ((Leaf.recent field count unit false).compile now).holds song = true →
        ((Leaf.recent field more unit false).compile now).holds
          song = true := by
  have hwithin : ∀ count,
      ((Leaf.recent field count unit false).compile now).holds song = true ↔
      Instant.moment (now.sinceEpoch - count.toInt * unit.length * 1000000) ≤
        t.reading := by
    intro count
    rw [Leaf.holds_compile, (Leaf.holds_recent ht count unit).1,
      Instant.windowStart_le_iff hnow hlast]
  refine ⟨hwithin count, ?_, ?_⟩
  · rw [Leaf.holds_compile, (Leaf.holds_recent ht count unit).2,
      ← Instant.not_le_iff_lt, Instant.windowStart_le_iff hnow hlast, not_le]
  · intro more hmore hholds
    rw [hwithin] at hholds ⊢
    have hlength : 0 < unit.length := by cases unit <;> decide
    have hproduct : count.toInt * unit.length ≤ more.toInt * unit.length :=
      Int.mul_le_mul_of_nonneg_right (Int64.le_iff_toInt_le.1 hmore)
        (Int.le_of_lt hlength)
    refine le_trans (Instant.moment_mono ?_) hholds
    omega

/-- A song that was added at the first instant there is. -/
def sampleOldest : Song :=
  ⟨⟨1⟩, "", "", "", 0, 0, 0, .first, none, true⟩

/-- Years as many as 64 bits can count lead from 1970 back before the first
instant, and as many negative ones forward beyond the last. -/
theorem recent_exact_extremes :
    Instant.epoch.inLeapSecond = false ∧
    sampleOldest.instant .dateAdded = some .first ∧
      Instant.first < Instant.last ∧
      ((Leaf.recent .dateAdded Int64.maxValue .year false).compile .epoch).holds
        sampleOldest =
        true ∧
      ((Leaf.recent .dateAdded Int64.minValue .year true).compile .epoch).holds
        sampleOldest =
        true := by
  have hnow : Instant.epoch.inLeapSecond = false := rfl
  have hfirst : sampleOldest.instant .dateAdded = some .first := rfl
  have hlast : Instant.first < Instant.last := by decide
  obtain ⟨hwithin, -⟩ := recent_exact hnow hfirst hlast .year Int64.maxValue
  obtain ⟨-, hbefore, -⟩ := recent_exact hnow hfirst hlast .year Int64.minValue
  refine ⟨hnow, hfirst, hlast, hwithin.2 ?_, hbefore.2 ?_⟩
  · rw [Instant.moment_le_reading_iff]
    decide
  · rw [← not_le, Instant.moment_le_reading_iff]
    decide

end Filter

end Songbook
