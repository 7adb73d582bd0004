import Songbook.Json.Basic
import Songbook.Text.Hexadecimal

/-!
# Reading JSON

Reads one value, with blanks around it and nothing else. Each reader takes
what it reads off the front of a text and gives the rest with it. Nothing
outside the grammar is let through: no comma before a closing bracket, no
leading zero, no control character in a string.

Values nest, so the readers of values count down a number of steps. A step is
taken for each value and for each member of an array or object, and each of
them has a character of its own, so twice the length of the text is more than
enough.
-/

namespace Songbook.Json

open Songbook.Text

/-- The blanks that may stand between the parts of a text. -/
def isSpace (c : Char) : Bool :=
  c == ' ' || c == '\t' || c == '\n' || c == '\r'

/-- A text from its first character that is no blank. -/
def skipSpace (s : List Char) : List Char :=
  s.dropWhile isSpace

/-! ## Numbers -/

/-- Takes digits, one at least. -/
def takeDigits (s : List Char) : Option (List Char × List Char) :=
  match s.takeWhile Char.isDigit with
  | [] => none
  | numeral => some (numeral, s.dropWhile Char.isDigit)

/-- Takes a fraction, if there is one; gives whether there is. -/
def takeFraction : List Char → Option (Bool × List Char)
  | '.' :: s => (takeDigits s).map fun (_, rest) => (true, rest)
  | s => some (false, s)

/-- A text without the sign that it may begin with. -/
def dropSign : List Char → List Char
  | '+' :: s => s
  | '-' :: s => s
  | s => s

/-- Takes an exponent, if there is one; gives whether there is. -/
def takeExponent : List Char → Option (Bool × List Char)
  | 'e' :: s => (takeDigits (dropSign s)).map fun (_, rest) => (true, rest)
  | 'E' :: s => (takeDigits (dropSign s)).map fun (_, rest) => (true, rest)
  | s => some (false, s)

/-- Takes a number. Only an integer other than negative zero counts as one. -/
def takeNumber (s : List Char) : Option (Json × List Char) := do
  let negative := s.head? = some '-'
  let (whole, rest) ← takeDigits (if negative then s.drop 1 else s)
  if 1 < whole.length ∧ whole.head? = some '0' then none
  else
    let (hasFraction, rest) ← takeFraction rest
    let (hasExponent, rest) ← takeExponent rest
    if hasFraction || hasExponent || (negative && whole == ['0']) then
      some (decimal (String.ofList (s.take (s.length - rest.length))), rest)
    else
      let n := Int.ofNat (Nat.ofDigitChars 10 whole 0)
      some (integer (if negative then -n else n), rest)

/-! ## Strings -/

/-- What one character or escape of a string stands for: a character, or half
of a pair. -/
inductive Piece
  | char (c : Char)
  | half (unit : Nat)

/-- The piece that a unit of 16 bits stands for; those set aside for pairs are
halves of one. -/
def Piece.ofUnit (unit : Nat) : Piece :=
  if 0xD800 ≤ unit ∧ unit < 0xE000 then half unit else char (Char.ofNat unit)

/-- The character that a letter stands for behind a backslash. -/
def unescape? : Char → Option Char
  | '"' => some '"'
  | '\\' => some '\\'
  | '/' => some '/'
  | 'b' => some '\x08'
  | 'f' => some '\x0c'
  | 'n' => some '\n'
  | 'r' => some '\r'
  | 't' => some '\t'
  | _ => none

/-- Takes the pieces of a string and the quote behind them. -/
def takePieces : List Char → Option (List Piece × List Char)
  | [] => none
  | '"' :: s => some ([], s)
  | '\\' :: 'u' :: a :: b :: c :: d :: s => do
    let unit ← hexNumber? [a, b, c, d]
    let (pieces, rest) ← takePieces s
    some (Piece.ofUnit unit :: pieces, rest)
  | '\\' :: e :: s => do
    let c ← unescape? e
    let (pieces, rest) ← takePieces s
    some (Piece.char c :: pieces, rest)
  | c :: s =>
    if c.toNat < 0x20 then none
    else do
      let (pieces, rest) ← takePieces s
      some (Piece.char c :: pieces, rest)

/-- The text that pieces make, if the halves among them come in pairs, the
higher one first. -/
def joinPieces : List Piece → Option (List Char)
  | [] => some []
  | .char c :: pieces => (c :: ·) <$> joinPieces pieces
  | .half high :: .half low :: pieces =>
    if high < 0xDC00 ∧ 0xDC00 ≤ low then
      (Char.ofNat (0x10000 + (high - 0xD800) * 0x400 + (low - 0xDC00)) :: ·) <$>
        joinPieces pieces
    else none
  | .half _ :: _ => none

/-- Takes a string from behind its first quote; gives the text that it
denotes, if it does. -/
def takeString (s : List Char) : Option (Option String × List Char) := do
  let (pieces, rest) ← takePieces s
  some ((joinPieces pieces).map String.ofList, rest)

/-! ## Values -/

mutual

/-- Takes a value, with the blanks before it. -/
def takeValue : Nat → List Char → Option (Json × List Char)
  | 0, _ => none
  | steps + 1, s =>
    match skipSpace s with
    | 'n' :: 'u' :: 'l' :: 'l' :: s => some (null, s)
    | 't' :: 'r' :: 'u' :: 'e' :: s => some (bool true, s)
    | 'f' :: 'a' :: 'l' :: 's' :: 'e' :: s => some (bool false, s)
    | '"' :: s => (takeString s).map fun (text, rest) => (string text, rest)
    | '[' :: s =>
      match skipSpace s with
      | ']' :: s => some (array [], s)
      | s => (takeItems steps s).map fun (items, rest) => (array items, rest)
    | '\x7b' :: s =>
      match skipSpace s with
      | '\x7d' :: s => some (object [], s)
      | s =>
        (takeFields steps s).map fun (fields, rest) => (object fields, rest)
    | s => takeNumber s

/-- Takes the items of an array, one at least, and the bracket behind them. -/
def takeItems : Nat → List Char → Option (List Json × List Char)
  | 0, _ => none
  | steps + 1, s => do
    let (item, s) ← takeValue steps s
    match skipSpace s with
    | ']' :: s => some ([item], s)
    | ',' :: s => do
      let (items, rest) ← takeItems steps s
      some (item :: items, rest)
    | _ => none

/-- Takes the fields of an object, one at least, and the brace behind them. -/
def takeFields :
    Nat → List Char → Option (List (Option String × Json) × List Char)
  | 0, _ => none
  | steps + 1, s =>
    match skipSpace s with
    | '"' :: s => do
      let (key, s) ← takeString s
      match skipSpace s with
      | ':' :: s => do
        let (value, s) ← takeValue steps s
        match skipSpace s with
        | '\x7d' :: s => some ([(key, value)], s)
        | ',' :: s => do
          let (fields, rest) ← takeFields steps s
          some ((key, value) :: fields, rest)
        | _ => none
      | _ => none
    | _ => none

end

/-- The value that characters are the text of. -/
def ofChars? (s : List Char) : Option Json := do
  let (value, rest) ← takeValue (2 * s.length + 2) s
  if (skipSpace rest).isEmpty then some value else none

/-- The value that a text is the text of. -/
def ofText? (text : String) : Option Json :=
  ofChars? text.toList

end Songbook.Json
