import Songbook.Calendar.Instant
import Songbook.Text.Blank

/-!
# Timestamps as text

The internet date and time format. Writing gives one form: UTC, marked by `Z`,
with a fraction of three, six or nine digits, as few as hold the instant
exactly, and none for a whole second. Reading is looser than the format: parts
of the date and time may have fewer digits, blanks may stand before each
number and separator and at both ends, a signed year may have any number of
digits, and an offset may be given instead of `Z`.
-/

namespace Songbook.Instant

open Songbook.Text

/-! ## Writing -/

/-- The fraction of a second, in the fewest groups of three digits that hold
it. -/
def fractionText (nanos : Nat) : List Char :=
  if nanos = 0 then []
  else if nanos % 1000000 = 0 then '.' :: digits 3 (nanos / 1000000)
  else if nanos % 1000 = 0 then '.' :: digits 6 (nanos / 1000)
  else '.' :: digits 9 nanos

/-- The time of day as hours, minutes and seconds. -/
def clockText (t : Instant) : List Char :=
  let (hour, minute, second) := t.clock
  digits 2 hour ++ ':' :: digits 2 minute ++ ':' :: digits 2 second

/-- An instant as text: its date and time of day in UTC, with as much of a
fraction as it takes. -/
def timestamp (t : Instant) : String :=
  t.date.text ++ "T" ++
    String.ofList (t.clockText ++ fractionText t.subsecond ++ ['Z'])

/-- Date and time of day with a blank between them, to the second. -/
def plainText (t : Instant) : String :=
  t.date.text ++ " " ++ String.ofList t.clockText

/-! ## Reading

Each reader takes what it reads off the front of a text and gives the rest
with it. -/

/-- Takes a number of at least one digit and at most `most`. -/
def takeNumber (most : Nat) (s : List Char) : Option (Nat × List Char) :=
  let numeral := (s.takeWhile Char.isDigit).take most
  (natural? numeral).map fun n => (n, s.drop numeral.length)

/-- Takes a year: four digits at most, or a sign and any number of digits. -/
def takeYear : List Char → Option (Int × List Char)
  | '-' :: s => (takeNumber s.length s).map fun (n, rest) => (-(n : Int), rest)
  | '+' :: s => (takeNumber s.length s).map fun (n, rest) => ((n : Int), rest)
  | s => (takeNumber 4 s).map fun (n, rest) => ((n : Int), rest)

/-- Takes one character, which one of the given ones has to be. -/
def takeOneOf (chars : List Char) : List Char → Option (List Char)
  | [] => none
  | c :: s => if c ∈ chars then some s else none

/-- Takes a fraction of a second, in nanoseconds, if there is one; digits past
the ninth are dropped. -/
def takeFraction : List Char → Option (Nat × List Char)
  | '.' :: s => (takeNumber 9 s).map fun (n, rest) =>
      (n * Nat.pow 10 (9 - (s.length - rest.length)),
        rest.dropWhile Char.isDigit)
  | s => some (0, s)

/-- Takes exactly two digits. -/
def takeTwoDigits : List Char → Option (Nat × List Char)
  | a :: b :: s => (natural? [a, b]).map fun n => (n, s)
  | _ => none

/-- Takes what may stand between the hours and the minutes of an offset. -/
def dropOffsetSeparator (s : List Char) : List Char :=
  s.dropWhile fun c => c == ':' || isBlank c

/-- Takes the hours and minutes of an offset, in seconds. -/
def takeOffsetSize (s : List Char) : Option (Nat × List Char) := do
  let (hours, s) ← takeTwoDigits s
  let (minutes, s) ← takeTwoDigits (dropOffsetSeparator s)
  if minutes < 60 then some (hours * 3600 + minutes * 60, s) else none

/-- Takes the offset from UTC, in seconds: a name for none, or a sign, hours
and minutes. The sign may be the typographic minus. -/
def takeOffset (s : List Char) : Option (Int × List Char) :=
  if (s.take 3).map Char.toLower = ['u', 't', 'c'] then some (0, s.drop 3)
  else match s with
    | 'Z' :: s => some (0, s)
    | 'z' :: s => some (0, s)
    | '+' :: s => (takeOffsetSize s).map fun (n, rest) => ((n : Int), rest)
    | '-' :: s => (takeOffsetSize s).map fun (n, rest) => (-(n : Int), rest)
    | '−' :: s => (takeOffsetSize s).map fun (n, rest) => (-(n : Int), rest)
    | _ => none

/-- The instant of a local date and time at an offset. The sixtieth second is
a leap second. -/
def ofLocal? (date : Date) (hour minute second nanos : Nat) (offset : Int) :
    Option Instant :=
  if hour < 24 ∧ minute < 60 ∧ second ≤ 60 ∧ offset.natAbs < 86400 then
    let plain : Nat := min second 59
    let clock : Nat := hour * 3600 + minute * 60 + plain
    of? (date.number * secondsPerDay + clock - offset)
      (if second = 60 then nanos + 1000000000 else nanos)
  else none

/-- Reads a timestamp. The date has to be one, the time of day may be at any
offset, and only blanks may stand behind it. -/
def ofTimestamp? (text : String) : Option Instant := do
  let (year, s) ← takeYear (trimStart text.toList)
  let s ← takeOneOf ['-'] (trimStart s)
  let (month, s) ← takeNumber 2 (trimStart s)
  let s ← takeOneOf ['-'] (trimStart s)
  let (day, s) ← takeNumber 2 (trimStart s)
  let s ← takeOneOf ['T', 't', ' '] s
  let (hour, s) ← takeNumber 2 (trimStart s)
  let s ← takeOneOf [':'] (trimStart s)
  let (minute, s) ← takeNumber 2 (trimStart s)
  let s ← takeOneOf [':'] (trimStart s)
  let (second, s) ← takeNumber 2 (trimStart s)
  let (nanos, s) ← takeFraction s
  let (offset, s) ← takeOffset (trimStart s)
  let date ← Date.ofCivil? year month day
  if isAllBlank s then ofLocal? date hour minute second nanos offset else none

end Songbook.Instant
