import Songbook.Text.Decimal

/-!
# Writing TOML

Which of the four forms of a quoted text is chosen, and what stands for a
character in it. The first form that needs no escape but for a tab is taken,
in the order: double quotes, single quotes, double quotes over several lines,
single quotes over several lines. If none does, the text stands with escapes
in double quotes, over several lines if it has several.
-/

namespace Songbook.Toml

open Songbook.Text

/-- Whether a character has to be escaped wherever it stands. A tab may stand
as it is, and a newline does in texts of several lines. -/
def isControl (c : Char) : Bool :=
  (c.toNat < 0x20 && c != '\t' && c != '\n') || c == '\x7f'

/-- The length of the longest run of a quote in a text, when `run` of them
stand before it. -/
def longestRun (quote : Char) : Nat → List Char → Nat
  | run, [] => run
  | run, c :: s =>
    if c = quote then longestRun quote (run + 1) s
    else max run (longestRun quote 0 s)

/-- A character as an escape, or as itself. -/
def escapeChar (c : Char) : List Char :=
  if c = '\x08' then ['\\', 'b']
  else if c = '\t' then ['\\', 't']
  else if c = '\n' then ['\\', 'n']
  else if c = '\x0c' then ['\\', 'f']
  else if c = '\r' then ['\\', 'r']
  else if c = '\\' then ['\\', '\\']
  else if isControl c then
    ['\\', 'u'] ++ padStart 4 '0' ((Nat.toDigits 16 c.toNat).map Char.toUpper)
  else [c]

/-- A text as it stands in double quotes over several lines if `long`, else on
one. Of a run of quotes over several lines two may stand as they are and the
third is escaped, which begins a new run; `run` counts those before. -/
def escapeAll (long : Bool) : Nat → List Char → List Char
  | _, [] => []
  | run, c :: s =>
    if c = '"' then
      if long && run < 2 then '"' :: escapeAll long (run + 1) s
      else '\\' :: '"' :: escapeAll long 0 s
    else if long && c == '\n' then '\n' :: escapeAll long 0 s
    else escapeChar c ++ escapeAll long 0 s

/-- Puts quotes around a text over several lines. If it has several, it begins
on a line of its own. -/
def enclose (quotes : List Char) (s body : List Char) : List Char :=
  quotes ++ (if s.contains '\n' then ['\n'] else []) ++ body ++ quotes

/-- A text between quotes, in the first of the four forms that holds it. -/
def quote (s : List Char) : List Char :=
  let hasControl := s.any isControl
  let hasBackslash := s.contains '\\'
  let hasNewline := s.contains '\n'
  let doubles := longestRun '"' 0 s
  let singles := longestRun '\'' 0 s
  if !hasControl && !hasBackslash && doubles == 0 && !hasNewline then
    '"' :: escapeAll false 0 s ++ ['"']
  else if !hasControl && singles == 0 && !hasNewline then '\'' :: s ++ ['\'']
  else if !hasControl && !hasBackslash && doubles ≤ 2 then
    enclose ['"', '"', '"'] s (escapeAll true 0 s)
  else if !hasControl && singles ≤ 2 then enclose ['\'', '\'', '\''] s s
  else if hasNewline then enclose ['"', '"', '"'] s (escapeAll true 0 s)
  else '"' :: escapeAll false 0 s ++ ['"']

/-- One line with a bare key and its value as written. -/
def line (key : String) (value : List Char) : List Char :=
  key.toList ++ " = ".toList ++ value ++ ['\n']

end Songbook.Toml
