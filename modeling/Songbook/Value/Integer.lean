import Songbook.Text.Blank
import Songbook.Text.Decimal

/-!
# Operands that are numbers

An operand is typed by a person, so one that does not read is reported with
the text as it was typed. An integer may have blanks around it, one sign and
leading zeros, and has to fit in 64 bits.
-/

namespace Songbook

/-- An operand that does not read as what its place asks for, with the text as
given. -/
inductive ValueError
  | integer (text : String)
  | duration (text : String)
  | date (text : String)
deriving DecidableEq

namespace ValueError

/-- The operand as it was given. -/
def text : ValueError → String
  | integer text => text
  | duration text => text
  | date text => text

/-- What is said of an operand that does not read. -/
def message : ValueError → String
  | integer text => "invalid integer: '" ++ text ++ "'"
  | duration text => "invalid duration: '" ++ text ++ "'"
  | date text => "invalid date: '" ++ text ++ "'"

end ValueError

namespace Value

open Songbook.Text

/-- The integer that a text holds, blanks around it aside. -/
def integer? (s : List Char) : Option Int64 :=
  (signed? (trim s)).bind fit?

/-- Reads an integer operand. -/
def readInteger (text : String) : Except ValueError Int64 :=
  match integer? text.toList with
  | some n => .ok n
  | none => .error (.integer text)

/-- An integer operand reads as `n` exactly when its trimmed text is a numeral
of that value. -/
theorem readInteger_eq_ok_iff {text : String} {n : Int64} :
    readInteger text = .ok n ↔ signed? (trim text.toList) = some n.toInt := by
  unfold readInteger
  cases h : integer? text.toList with
  | none =>
    simp only [reduceCtorEq, false_iff]
    intro hs
    simp [integer?, hs] at h
  | some m =>
    obtain ⟨k, hk, hm⟩ := Option.bind_eq_some_iff.1 h
    rw [hk, Option.some.injEq, ← fit?_eq_some_iff.1 hm, Int64.toInt_inj,
      Except.ok.injEq]

theorem readInteger_eq_error_iff {text : String} {e : ValueError} :
    readInteger text = .error e ↔
      integer? text.toList = none ∧ e = .integer text := by
  unfold readInteger
  cases integer? text.toList <;> simp [eq_comm]

end Value

end Songbook
