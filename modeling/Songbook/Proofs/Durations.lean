import Songbook.Value.Duration

/-!
# Parts of a duration

A duration is trimmed before it is taken apart, and its parts are counted
before any of them is read. As no blank is a colon, trimming does not change
how many parts there are, so the text as it was typed says already whether a
duration has too many.
-/

namespace Songbook

namespace Text

variable {c : Char} {s : List Char}

theorem count_trimStart (hc : isBlank c = false) (s : List Char) :
    (trimStart s).count c = s.count c := by
  induction s with
  | nil => rfl
  | cons d s ih =>
      rw [trimStart, List.dropWhile_cons]
      split
      · next hd =>
          have hne : d ≠ c := fun h => by rw [h, hc] at hd; cases hd
          rw [List.count_cons_of_ne hne]
          exact ih
      · rfl

theorem count_trim (hc : isBlank c = false) (s : List Char) :
    (trim s).count c = s.count c := by
  rw [trim, trimEnd, List.count_reverse, count_trimStart hc, List.count_reverse,
    count_trimStart hc]

theorem length_splitOn (c : Char) (s : List Char) :
    (s.splitOn c).length = s.count c + 1 := by
  induction s with
  | nil => rfl
  | cons d s ih =>
      rw [List.splitOn_cons_eq_if_modifyHead]
      split
      · next h =>
            rw [List.length_cons, ih, beq_iff_eq.1 h, List.count_cons_self]
      · next h =>
          rw [List.length_modifyHead, ih, List.count_cons_of_ne fun he =>
            h (beq_iff_eq.2 he)]

end Text

namespace Value

open Songbook.Text

/-- Whether a duration has more parts than hours, minutes and seconds. -/
def HasExcessParts (text : String) : Prop :=
  3 < (text.toList.splitOn ':').length

instance (text : String) : Decidable (HasExcessParts text) :=
  inferInstanceAs (Decidable (_ < _))

/-- The parts of a duration can be counted without trimming it. -/
theorem length_durationParts (s : List Char) :
    (durationParts s).length = (s.splitOn ':').length := by
  rw [durationParts, length_splitOn, length_splitOn, count_trim (by decide)]

/-- A duration with too many parts is refused for that, whatever the parts
are. -/
theorem readDuration_of_hasExcessParts {text : String}
    (h : HasExcessParts text) :
    readDuration text = .error (.components text) := by
  rw [readDuration]
  exact if_pos (by rw [length_durationParts]; exact h)

/-- A duration without too many parts has a value, or is refused with its own
text. -/
theorem readDuration_of_not_hasExcessParts {text : String}
    (h : ¬HasExcessParts text) :
    (∃ n, readDuration text = .ok n) ∨
      readDuration text = .error (.value (.duration text)) := by
  have hle : ¬3 < (durationParts text.toList).length := by
    rw [length_durationParts]; exact h
  simp only [readDuration, if_neg hle]
  split
  · next n _ => exact .inl ⟨n, rfl⟩
  · exact .inr rfl

end Value

end Songbook
