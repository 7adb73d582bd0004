import Songbook.Calendar.Civil
import Songbook.Text.Decimal
import Songbook.Text.Hexadecimal
import Songbook.Toml.Basic

/-!
# TOML words

Values that are not quoted and not bracketed: truth values, integers, floats,
dates and times. Such a word ends before a blank, a comma, a closing bracket
or a comment, so it is read as a whole.
-/

namespace Songbook.Toml

/-- Digits without the underscores between them, which may stand one at a time
and only between digits. -/
def ungroup? (isDigit : Char → Bool) (s : List Char) : Option (List Char) :=
  let groups := s.splitOn '_'
  if groups.all fun group => !group.isEmpty && group.all isDigit
    then some groups.flatten else none

/-! ## Integers -/

/-- The value of digits of a base. -/
def valueOf (base : Nat) (s : List Char) : Nat :=
  s.foldl (fun n c => n * base + (Text.hexDigit? c).getD 0) 0

/-- Whether a character is a digit of a base of at most sixteen. -/
def isDigitOf (base : Nat) (c : Char) : Bool :=
  match Text.hexDigit? c with
  | some n => n < base
  | none => false

/-- Digits of base ten, without a zero before others. -/
def wholeDigits? (s : List Char) : Option (List Char) :=
  match ungroup? Char.isDigit s with
  | some ('0' :: _ :: _) => none
  | digits => digits

/-- A word without its sign, and whether that is a minus. -/
def splitSign : List Char → Bool × List Char
  | '-' :: s => (true, s)
  | '+' :: s => (false, s)
  | s => (false, s)

/-- The integer that a word is, of any size. -/
def integerOf? : List Char → Option Int
  | '0' :: 'x' :: s =>
    (ungroup? (isDigitOf 16) s).map fun digits => valueOf 16 digits
  | '0' :: 'o' :: s =>
    (ungroup? (isDigitOf 8) s).map fun digits => valueOf 8 digits
  | '0' :: 'b' :: s =>
    (ungroup? (isDigitOf 2) s).map fun digits => valueOf 2 digits
  | s =>
    let (negative, s) := splitSign s
    (wholeDigits? s).map fun digits =>
      if negative then -(valueOf 10 digits : Int) else valueOf 10 digits

/-- The integer that a word is, if it fits in 64 bits. -/
def integer? (s : List Char) : Option Int64 :=
  (integerOf? s).bind Text.fit?

/-! ## Floats -/

/-- Whether digits, of which the last `places` stand behind the point, times a
power of ten are too large for a double: half a unit past the largest one or
more. The number of digits tells unless the value is close to the bound. -/
def overflows (digits : List Char) (places : Nat) (exponent : Int) : Bool :=
  let significant := digits.dropWhile (· == '0')
  let power := exponent - places
  let magnitude := significant.length + power
  if significant.isEmpty || magnitude < 309 then false
  else if 310 < magnitude then true
  else
    let bound := Nat.pow 2 1024 - Nat.pow 2 970
    let value := valueOf 10 significant
    if 0 ≤ power then bound ≤ value * Nat.pow 10 power.toNat
    else bound * Nat.pow 10 (-power).toNat ≤ value

/-- The digits behind the point of a float and its exponent, from behind its
whole part; a float has one of them at least. -/
def floatTail? (s : List Char) : Option (List Char × Int) := do
  let isExponent (c : Char) : Bool := c == 'e' || c == 'E'
  let mantissa := s.takeWhile fun c => !isExponent c
  let fraction ← match mantissa with
    | [] => some []
    | '.' :: digits => ungroup? Char.isDigit digits
    | _ => none
  match s.dropWhile fun c => !isExponent c with
  | [] => if mantissa.isEmpty then none else some (fraction, 0)
  | _ :: exponent =>
    let (negative, exponent) := splitSign exponent
    let digits ← ungroup? Char.isDigit exponent
    some (fraction,
      if negative then -(valueOf 10 digits : Int) else valueOf 10 digits)

/-- Whether a word is a float: a number with a fraction or an exponent that is
not too large, or a name for infinity or for no number. -/
def isFloat (s : List Char) : Bool :=
  let (negative, s) := splitSign s
  if s = "inf".toList || s = "nan".toList then true
  else
    let isWhole (c : Char) : Bool := c.isDigit || c == '_'
    match wholeDigits? (s.takeWhile isWhole),
      floatTail? (s.dropWhile isWhole) with
    | some whole, some (fraction, exponent) =>
      negative || !overflows (whole ++ fraction) fraction.length exponent
    | _, _ => false

/-! ## Dates and times -/

/-- The number of exactly `width` digits. -/
def fixed? (width : Nat) (s : List Char) : Option Nat :=
  if s.length = width ∧ s.all Char.isDigit then some (valueOf 10 s) else none

/-- Whether a word is a date: four, two and two digits that name a day. -/
def isDate (s : List Char) : Bool :=
  match s.splitOn '-' with
  | [year, month, day] =>
    match fixed? 4 year, fixed? 2 month, fixed? 2 day with
    | some year, some month, some day =>
      decide (Calendar.IsCivil year month day)
    | _, _, _ => false
  | _ => false

/-- Whether a word is an hour and a minute of a day. -/
def isHourMinute (s : List Char) : Bool :=
  match s.splitOn ':' with
  | [hour, minute] =>
    match fixed? 2 hour, fixed? 2 minute with
    | some hour, some minute => hour < 24 && minute < 60
    | _, _ => false
  | _ => false

/-- Whether a word is a number of seconds, with or without a fraction. -/
def isSecond (s : List Char) : Bool :=
  match s.splitOn '.' with
  | [second] => (fixed? 2 second).any (· ≤ 60)
  | [second, fraction] =>
    (fixed? 2 second).any (· ≤ 60) && !fraction.isEmpty &&
      fraction.all Char.isDigit
  | _ => false

/-- Whether a word is a time of day, with its seconds. -/
def isTime (s : List Char) : Bool :=
  isHourMinute (s.take 5) && (s.drop 5).head? == some ':' && isSecond (s.drop 6)

/-- Whether a word is an offset from UTC. -/
def isOffset : List Char → Bool
  | ['Z'] => true
  | ['z'] => true
  | '+' :: s => isHourMinute s
  | '-' :: s => isHourMinute s
  | _ => false

/-- Whether a word is a time of day, with or without an offset. -/
def isOffsetTime (s : List Char) : Bool :=
  let isSign (c : Char) : Bool := c == 'Z' || c == 'z' || c == '+' || c == '-'
  let offset := s.dropWhile fun c => !isSign c
  isTime (s.takeWhile fun c => !isSign c) && (offset.isEmpty || isOffset offset)

/-- Whether a word is a date, a time of day, or both. -/
def isDateTime (s : List Char) : Bool :=
  isTime s || isDate s ||
    (isDate (s.take 10) && (s.drop 10).head?.any (fun c =>
      c == 'T' || c == 't' || c == ' ') &&
      isOffsetTime (s.drop 11))

/-! ## Words -/

/-- The value that a word is. What could be a date or a float is looked at
before integers. -/
def word? (s : List Char) : Option Value :=
  if s = "true".toList then some (.boolean true)
  else if s = "false".toList then some (.boolean false)
  else if isDateTime s then some (.dateTime (String.ofList s))
  else if isFloat s then some (.float (String.ofList s))
  else (integer? s).map .integer

end Songbook.Toml
