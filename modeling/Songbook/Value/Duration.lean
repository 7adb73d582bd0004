import Songbook.Value.Integer

/-!
# Operands that are durations

A duration is written as seconds, as minutes and seconds, or as hours, minutes
and seconds, with colons between. The parts are integers of any size and sign,
so `1:75` is 135 seconds. They are summed from the right, and every product
and every sum on the way has to fit in 64 bits.
-/

namespace Songbook

/-- Why a duration does not read. More than three parts is not a slip of the
person who typed it, so it is kept apart from the errors in values. -/
inductive DurationError
  | value (error : ValueError)
  | components (text : String)
deriving DecidableEq

namespace Value

open Songbook.Text

/-- Adds parts to a running total, the first at `weight` seconds each and
every next at sixty times as many. -/
def durationFrom : List (List Char) → Int → Int64 → Option Int64
  | [], _, total => some total
  | part :: parts, weight, total => do
    let count ← integer? part
    let seconds ← fit? (count.toInt * weight)
    let total ← fit? (total.toInt + seconds.toInt)
    durationFrom parts (weight * 60) total

/-- The parts of a duration, left to right. -/
def durationParts (s : List Char) : List (List Char) :=
  (trim s).splitOn ':'

/-- Reads a duration operand. Too many parts are a fault, whatever they hold.
-/
def readDuration (text : String) : Except DurationError Int64 :=
  let parts := durationParts text.toList
  if 3 < parts.length then .error (.components text)
  else match durationFrom parts.reverse 1 0 with
    | some seconds => .ok seconds
    | none => .error (.value (.duration text))

end Value

end Songbook
