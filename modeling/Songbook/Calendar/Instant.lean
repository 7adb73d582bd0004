import Songbook.Calendar.Date

/-!
# Instants

A moment in UTC, to the nanosecond. The seconds count from
1970-01-01T00:00:00Z and ignore leap seconds; a moment inside a leap second
belongs to the second before it, the last of its minute, with a billion
nanoseconds or more. So instants are ordered by seconds first and nanoseconds
next, and a leap second comes after all of the plain second it is written
into.
-/

namespace Songbook

/-- The seconds of a day, leap seconds not counted. -/
def secondsPerDay : Int := 86400

/-- Which seconds and nanoseconds make an instant: the day is one that a date
can hold, and only the last second of a minute is followed by a leap second.
-/
def Instant.IsValid (seconds : Int) (nanos : Nat) : Prop :=
  Date.firstNumber * secondsPerDay ≤ seconds ∧
    seconds < (Date.lastNumber + 1) * secondsPerDay ∧
    nanos < 2000000000 ∧ (1000000000 ≤ nanos → seconds % 60 = 59)

instance (seconds : Int) (nanos : Nat) :
    Decidable (Instant.IsValid seconds nanos) :=
  inferInstanceAs (Decidable (_ ∧ _))

/-- A moment in UTC. -/
structure Instant where
  seconds : Int
  nanos : Nat
  isValid : Instant.IsValid seconds nanos
deriving DecidableEq

namespace Instant

/-- The instant with given seconds and nanoseconds, if they make one. -/
def of? (seconds : Int) (nanos : Nat) : Option Instant :=
  if h : IsValid seconds nanos then some ⟨seconds, nanos, h⟩ else none

/-- The first instant that there is. -/
def first : Instant :=
  ⟨Date.firstNumber * secondsPerDay, 0, by decide⟩

/-- The last instant that is not in a leap second. -/
def last : Instant :=
  ⟨(Date.lastNumber + 1) * secondsPerDay - 1, 999999999, by decide⟩

/-- The start of 1970. -/
def epoch : Instant :=
  ⟨0, 0, by decide⟩

/-- Whether an instant lies in a leap second. -/
def inLeapSecond (t : Instant) : Bool :=
  1000000000 ≤ t.nanos

/-- The UTC day of an instant. -/
def date (t : Instant) : Date where
  number := t.seconds / secondsPerDay
  first_le := by
    have h := t.isValid.1
    simp only [Date.firstNumber, secondsPerDay] at h ⊢
    omega
  le_last := by
    have h := t.isValid.2.1
    simp only [Date.lastNumber, secondsPerDay] at h ⊢
    omega

instance : LE Instant :=
  ⟨fun a b =>
    a.seconds < b.seconds ∨ (a.seconds = b.seconds ∧ a.nanos ≤ b.nanos)⟩

instance : LT Instant :=
  ⟨fun a b =>
    a.seconds < b.seconds ∨ (a.seconds = b.seconds ∧ a.nanos < b.nanos)⟩

instance (a b : Instant) : Decidable (a ≤ b) :=
  inferInstanceAs (Decidable (_ ∨ _))

instance (a b : Instant) : Decidable (a < b) :=
  inferInstanceAs (Decidable (_ ∨ _))

/-- The instant without what is finer than a microsecond. -/
def truncateToMicros (t : Instant) : Instant where
  seconds := t.seconds
  nanos := t.nanos / 1000 * 1000
  isValid := by
    obtain ⟨h₁, h₂, h₃, h₄⟩ := t.isValid
    exact ⟨h₁, h₂, by omega, fun h => h₄ (by omega)⟩

/-- The hour, minute and second of the day; a leap second is the sixtieth of
its minute. -/
def clock (t : Instant) : Nat × Nat × Nat :=
  let s := (t.seconds % secondsPerDay).toNat
  (s / 3600, s / 60 % 60, s % 60 + if t.inLeapSecond then 1 else 0)

/-- The nanoseconds into the second, or into the leap second. -/
def subsecond (t : Instant) : Nat :=
  t.nanos % 1000000000

/-- Exactly the valid pairs make an instant, and each its own. -/
theorem of?_eq_some_iff {s : Int} {n : Nat} {t : Instant} :
    of? s n = some t ↔ t.seconds = s ∧ t.nanos = n := by
  unfold of?
  split
  · next h =>
    rw [Option.some.injEq]
    constructor
    · rintro rfl
      exact ⟨rfl, rfl⟩
    · rintro ⟨rfl, rfl⟩
      rfl
  · next h =>
    simp only [reduceCtorEq, false_iff]
    rintro ⟨rfl, rfl⟩
    exact h t.isValid

theorem lt_of_not_le {a b : Instant} (h : ¬a ≤ b) : b < a := by
  have h' : ¬(a.seconds < b.seconds ∨
      (a.seconds = b.seconds ∧ a.nanos ≤ b.nanos)) := h
  show b.seconds < a.seconds ∨ (b.seconds = a.seconds ∧ b.nanos < a.nanos)
  omega

theorem not_le_iff_lt {a b : Instant} : ¬a ≤ b ↔ b < a := by
  refine ⟨lt_of_not_le, fun hlt hle => ?_⟩
  have h₁ : b.seconds < a.seconds ∨
      (b.seconds = a.seconds ∧ b.nanos < a.nanos) := hlt
  have h₂ : a.seconds < b.seconds ∨
      (a.seconds = b.seconds ∧ a.nanos ≤ b.nanos) := hle
  omega

end Instant

end Songbook
