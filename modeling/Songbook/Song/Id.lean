import Songbook.Text.Decimal
import Songbook.Text.Hexadecimal

/-!
# Song ids

A song is known by 128 bits, of which nothing is asked but that no two songs
share them. They are written as 32 hexadecimal digits with hyphens after the
eighth, twelfth, sixteenth and twentieth. Reading also takes the digits
without hyphens, and the hyphenated form between braces or after `urn:uuid:`;
the digits may be of either case, the rest stands as it is.
-/

namespace Songbook

/-- What a song is known by. -/
structure SongId where
  bits : BitVec 128
deriving DecidableEq

namespace SongId

/-- The hexadecimal digits of an id, all 32. -/
def hexDigits (id : SongId) : List Char :=
  Text.padStart 32 '0' (Nat.toDigits 16 id.bits.toNat)

/-- Puts the hyphens between 32 digits. -/
def hyphenate (s : List Char) : List Char :=
  s.take 8 ++ '-' :: (s.drop 8).take 4 ++ '-' :: (s.drop 12).take 4 ++
    '-' :: (s.drop 16).take 4 ++ '-' :: s.drop 20

/-- An id as text, hyphenated and in lower case. -/
def text (id : SongId) : String :=
  String.ofList (hyphenate id.hexDigits)

/-- The id with 32 hexadecimal digits. -/
def ofHexDigits? (s : List Char) : Option SongId :=
  if s.length = 32 then (Text.hexNumber? s).map fun n => ⟨BitVec.ofNat 128 n⟩
  else none

/-- The id of a hyphenated text, with the hyphens in their places. -/
def ofHyphenated? (s : List Char) : Option SongId :=
  if s.length = 36 ∧ s[8]? = some '-' ∧ s[13]? = some '-' ∧ s[18]? = some '-' ∧
      s[23]? = some '-' then
    ofHexDigits? (s.take 8 ++ (s.drop 9).take 4 ++ (s.drop 14).take 4 ++
      (s.drop 19).take 4 ++ s.drop 24)
  else none

/-- What stands before an id that is written as a name. -/
def namePart : List Char :=
  "urn:uuid:".toList

/-- The id of a text in any of its forms, told apart by their lengths. -/
def ofChars? (s : List Char) : Option SongId :=
  if s.length = 32 then ofHexDigits? s
  else if s.length = 38 ∧ s.head? = some '\x7b' ∧ s.getLast? = some '\x7d' then
    ofHyphenated? ((s.drop 1).take 36)
  else if s.length = 45 ∧ s.take 9 = namePart then ofHyphenated? (s.drop 9)
  else ofHyphenated? s

/-- The id of a text in any of its forms. -/
def ofText? (text : String) : Option SongId :=
  ofChars? text.toList

/-! ## New ids -/

/-- An id made of a time in milliseconds and a number of 74 bits that tells it
from others of that time. Ids of later times are greater, and so are those of
greater numbers at one time. Two fixed fields among the bits say that the id
was made in this way. -/
def ofTime (millis number : Nat) : SongId :=
  ⟨BitVec.ofNat 48 millis ++ 7#4 ++ BitVec.ofNat 12 (number >>> 62) ++ 2#2 ++
    BitVec.ofNat 62 number⟩

end SongId

end Songbook
