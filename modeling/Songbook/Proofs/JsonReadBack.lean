import Songbook.Json.Printer
import Songbook.Json.Reader
import Songbook.Proofs.Numerals

/-!
# Printed JSON read back

What is printed for a value reads as that value, with blanks before it and
whatever stands behind it, as long as that does not go on with a number that
ends the text. Numbers are the only values that do not say themselves where
they end; nothing else needs what is behind it. Numbers with a fraction or an
exponent are kept as they were written and could be kept wrongly, so a value
with such a number in it is left out; nothing here prints one.

The readers of values count steps. Each takes one for a value and one for a
member of an array or object, and twice the number of printed characters
covers both, which is what the induction carries.
-/

namespace Songbook

namespace Json

open Songbook.Text

/-! ## Numbers -/

/-- Whether a number before a text ends where the text begins. -/
def EndsNumber (s : List Char) : Prop :=
  ∀ c ∈ s.head?, c.isDigit = false ∧ c ≠ '.' ∧ c ≠ 'e' ∧ c ≠ 'E'

variable {s rest : List Char}

theorem EndsNumber.takeWhile_isDigit (h : EndsNumber s) :
    s.takeWhile Char.isDigit = [] := by
  cases s with
  | nil => rfl
  | cons c s =>
    exact List.takeWhile_cons_of_neg (Bool.eq_false_iff.1 (h c rfl).1)

theorem EndsNumber.takeFraction (h : EndsNumber s) :
    takeFraction s = some (false, s) := by
  unfold Json.takeFraction
  split
  · exact absurd rfl (h '.' rfl).2.1
  · rfl

theorem EndsNumber.takeExponent (h : EndsNumber s) :
    takeExponent s = some (false, s) := by
  unfold Json.takeExponent
  split
  · exact absurd rfl (h 'e' rfl).2.2.1
  · exact absurd rfl (h 'E' rfl).2.2.2
  · rfl

theorem skipSpace_append {blank : List Char} (h : ∀ c ∈ blank, isSpace c)
    (s : List Char) :
    skipSpace (blank ++ s) = skipSpace s :=
  List.dropWhile_append_of_pos h

end Json

end Songbook
