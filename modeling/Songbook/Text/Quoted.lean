import Songbook.Text.GlyphTable
import Songbook.Text.Ranges

/-!
# Quoted text

The form in which a message or an explained filter shows a text: between
double quotes, with a backslash before a quote or a backslash, short escapes
for the usual controls, and a numeric escape for every other character that
would not show, or that would join the character before it. What stands
between the quotes is all visible, and no two texts look alike.
-/

namespace Songbook.Text

/-- Whether a character is written as a number: it does not show, or joins its
neighbour. -/
def needsNumber (c : Char) : Bool :=
  inRanges hiddenRanges c.toNat || inRanges joiningRanges c.toNat

/-- What stands for one character between the quotes. -/
def escapeChar (c : Char) : List Char :=
  if c = '\x00' then ['\\', '0']
  else if c = '\t' then ['\\', 't']
  else if c = '\r' then ['\\', 'r']
  else if c = '\n' then ['\\', 'n']
  else if c = '"' then ['\\', '"']
  else if c = '\\' then ['\\', '\\']
  else if needsNumber c then ['\\', 'u', '\x7b'] ++
    Nat.toDigits 16 c.toNat ++ ['\x7d']
  else [c]

/-- A text between quotes, with escapes. -/
def quote (s : List Char) : List Char :=
  '"' :: s.flatMap escapeChar ++ ['"']

/-- A string between quotes, with escapes. -/
def quoted (s : String) : String :=
  String.ofList (quote s.toList)

end Songbook.Text
