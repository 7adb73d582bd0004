import Songbook.Calendar.Date
import Songbook.Text.Lowercase
import Songbook.Value.Integer

/-!
# Operands that are dates

A date is written as `today`, as `yesterday`, both in any case, or as year,
month and day with hyphens between. The three parts are integers, so leading
zeros and blanks around them are allowed, and a year may have a plus sign; a
minus sign would be a hyphen more, so no year before 0 can be written.
-/

namespace Songbook.Value

open Songbook.Text

/-- The date that three parts name, read as integers. Only the year may be
negative. -/
def dateOfParts? : List (List Char) → Option Date
  | [year, month, day] => do
    let year ← integer? year
    let month ← integer? month
    let day ← integer? day
    if 0 ≤ month.toInt ∧ 0 ≤ day.toInt then
      Date.ofCivil? year.toInt month.toInt.toNat day.toInt.toNat
    else none
  | _ => none

/-- The date that a text holds, blanks around it and case aside. -/
def date? (today : Date) (s : List Char) : Option Date :=
  let s := lower (trim s)
  if s = "today".toList then some today
  else if s = "yesterday".toList then today.yesterday?
  else dateOfParts? (s.splitOn '-')

/-- Reads a date operand. -/
def readDate (today : Date) (text : String) : Except ValueError Date :=
  match date? today text.toList with
  | some date => .ok date
  | none => .error (.date text)

end Songbook.Value
