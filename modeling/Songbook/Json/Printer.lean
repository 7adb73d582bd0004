import Songbook.Json.Basic
import Songbook.Text.Decimal

/-!
# JSON texts

Prints a value over several lines, two blanks further in for each level, with
a blank after each colon; an array or object without members stays on one
line. In strings only the quote, the backslash and the controls below the
blank are escaped, the usual ones by a letter.
-/

namespace Songbook.Json

open Songbook.Text

/-- A character as it stands in a string. -/
def escapeChar (c : Char) : List Char :=
  if c = '"' then ['\\', '"']
  else if c = '\\' then ['\\', '\\']
  else if c = '\x08' then ['\\', 'b']
  else if c = '\x0c' then ['\\', 'f']
  else if c = '\n' then ['\\', 'n']
  else if c = '\r' then ['\\', 'r']
  else if c = '\t' then ['\\', 't']
  else if c.toNat < 0x20 then
    ['\\', 'u'] ++ padStart 4 '0' (Nat.toDigits 16 c.toNat)
  else [c]

/-- A string between quotes. One that denotes no text is shown by half of a
surrogate pair. -/
def printString : Option String → List Char
  | some text => '"' :: text.toList.flatMap escapeChar ++ ['"']
  | none => "\"\\ud800\"".toList

/-- A new line, two blanks in for each level. -/
def newLine (level : Nat) : List Char :=
  '\n' :: List.replicate (2 * level) ' '

mutual

/-- A value as it stands `level` levels deep. -/
def print (level : Nat) : Json → List Char
  | null => "null".toList
  | bool true => "true".toList
  | bool false => "false".toList
  | integer value => (Text.decimal value).toList
  | decimal numeral => numeral.toList
  | string text => printString text
  | array [] => "[]".toList
  | array (item :: items) =>
    '[' :: newLine (level + 1) ++ print (level + 1) item ++
      printItems (level + 1) items ++ newLine level ++ [']']
  | object [] => ['\x7b', '\x7d']
  | object ((key, value) :: fields) =>
    '\x7b' :: newLine (level + 1) ++ printString key ++ ": ".toList ++
      print (level + 1) value ++
      printFields (level + 1) fields ++ newLine level ++ ['\x7d']

/-- The items of an array behind the first, each on a line of its own. -/
def printItems (level : Nat) : List Json → List Char
  | [] => []
  | item :: items =>
    ',' :: newLine level ++ print level item ++ printItems level items

/-- The fields of an object behind the first, each on a line of its own. -/
def printFields (level : Nat) : List (Option String × Json) → List Char
  | [] => []
  | (key, value) :: fields =>
    ',' :: newLine level ++ printString key ++ ": ".toList ++
      print level value ++ printFields level fields

end

/-- The text of a value. -/
def pretty (value : Json) : String :=
  String.ofList (print 0 value)

end Songbook.Json
