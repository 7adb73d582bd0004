import Songbook.Text.CaseTable
import Songbook.Text.Ranges

/-!
# Lower case

Texts are compared without regard to case by lower-casing both sides. A
character's lower case is one character, but for the capital I with a dot,
which becomes two; and the capital sigma has two lower cases: `ς` at the end
of a word, which means that a letter comes before it and none after it, and
`σ` elsewhere. Because of the sigma a text is not lower-cased character by
character: what stands around one decides.
-/

namespace Songbook.Text

/-- A letter with case that is not passed over. -/
def isCased (c : Char) : Bool :=
  inRanges casedRanges c.toNat

/-- A character that is passed over when one looks for the nearest letter. -/
def isCaseIgnorable (c : Char) : Bool :=
  inRanges caseIgnorableRanges c.toNat

/-- The lower case of a character wherever it stands. -/
def lowerChar (c : Char) : List Char :=
  if c = 'İ' then ['i', '\u0307']
  else match caseRuns.find? (·.holds c.toNat) with
    | some run => [Char.ofNat (c.toNat + run.shift).toNat]
    | none => [c]

/-- Whether the nearest letter after a place, the characters passed over
aside, has case. -/
def startsCased (s : List Char) : Bool :=
  match s.dropWhile isCaseIgnorable with
  | [] => false
  | c :: _ => isCased c

/-- Lower-cases a text. `inWord` says whether the nearest letter before it has
case. -/
def lowerFrom (inWord : Bool) : List Char → List Char
  | [] => []
  | c :: s =>
    let lower :=
      if c = 'Σ' then [if inWord && !startsCased s then 'ς' else 'σ']
      else lowerChar c
    lower ++ lowerFrom (if isCaseIgnorable c then inWord else isCased c) s

/-- A text in lower case. -/
def lower (s : List Char) : List Char :=
  lowerFrom false s

/-- A string in lower case. -/
def lowercase (s : String) : String :=
  String.ofList (lower s.toList)

end Songbook.Text
