import Songbook.Calendar.Instant
import Songbook.Text.Decimal

/-!
# Relative windows

How far back `last 3 week` reaches. A unit has one fixed length in
milliseconds: months and years are mean lengths, so a window never depends on
where in the calendar it starts. The product of count and length is held
within the bounds of 64 bits, and a window that reaches past the first or last
instant stops there.
-/

namespace Songbook

/-- The units in which a relative window is given. -/
inductive TimeUnit
  | hour
  | day
  | week
  | month
  | year
deriving DecidableEq

namespace TimeUnit

/-- What a form calls a unit. -/
def name : TimeUnit → String
  | hour => "hour"
  | day => "day"
  | week => "week"
  | month => "month"
  | year => "year"

/-- The unit with a name; case counts. -/
def ofName? : String → Option TimeUnit
  | "hour" => some hour
  | "day" => some day
  | "week" => some week
  | "month" => some month
  | "year" => some year
  | _ => none

/-- The milliseconds in a unit. A month is 30.43685 days and a year 365.2422
days. -/
def length : TimeUnit → Int
  | hour => 3600000
  | day => 86400000
  | week => 604800000
  | month => 2629743840
  | year => 31556926080

/-- The longest span either way, in milliseconds. -/
def maxSpan : Int := 9223372036854775807

/-- The milliseconds in `count` units, held within the longest span. -/
def span (unit : TimeUnit) (count : Int64) : Int :=
  max (-maxSpan) (min maxSpan (unit.length * count.toInt))

@[simp] theorem ofName?_name (unit : TimeUnit) :
    ofName? unit.name = some unit := by
  cases unit <;> rfl

end TimeUnit

namespace Instant

/-- The instant some milliseconds earlier, later when they are negative, if it
is in range. From inside a leap second the way back counts from the second
after it and the way forward from the second before it, and no way at all
stays where it is. -/
def earlier? (t : Instant) (milliseconds : Int) : Option Instant :=
  if milliseconds = 0 then some t
  else
    let leap : Int := if t.inLeapSecond && 0 < milliseconds then 1 else 0
    let nanos :=
      (t.seconds + leap) * 1000000000 + t.subsecond - milliseconds * 1000000
    of? (nanos / 1000000000) (nanos % 1000000000).toNat

/-- Where a window that ends at `now` begins: `count` units earlier, or the
end of time that it reaches past. -/
def windowStart (now : Instant) (count : Int64) (unit : TimeUnit) : Instant :=
  let span := unit.span count
  (now.earlier? span).getD (if 0 < span then first else last)

end Instant

end Songbook
