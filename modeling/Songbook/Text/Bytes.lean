/-!
# Text from bytes

Reads UTF-8 that may be damaged. Whatever is well formed comes out as it is;
where bytes do not form a character, each longest stretch that could have
begun one becomes a replacement character. The reader takes one byte at a time
and keeps what is owed of the character it is in, so no byte is looked at
twice except one that breaks a character off, which then begins the next.
-/

namespace Songbook.Text

/-- A character that has begun: `owed` bytes are still to come, the first of
them between `low` and `high`, and `value` holds the bits so far. -/
structure Begun where
  owed : Nat
  value : Nat
  low : Nat
  high : Nat

/-- What stands for bytes that are no part of a character. -/
def replacement : Char := '\ufffd'

/-- Takes the first byte of a character. The second byte's bounds keep out
overlong forms, halves of surrogate pairs and values past the last code point.
-/
def beginChar (b : Nat) : List Char × Option Begun :=
  if b < 0x80 then ([Char.ofNat b], none)
  else if b < 0xC2 then ([replacement], none)
  else if b < 0xE0 then ([], some ⟨1, b - 0xC0, 0x80, 0xBF⟩)
  else if b = 0xE0 then ([], some ⟨2, 0, 0xA0, 0xBF⟩)
  else if b = 0xED then ([], some ⟨2, 0xD, 0x80, 0x9F⟩)
  else if b < 0xF0 then ([], some ⟨2, b - 0xE0, 0x80, 0xBF⟩)
  else if b = 0xF0 then ([], some ⟨3, 0, 0x90, 0xBF⟩)
  else if b < 0xF4 then ([], some ⟨3, b - 0xF0, 0x80, 0xBF⟩)
  else if b = 0xF4 then ([], some ⟨3, 4, 0x80, 0x8F⟩)
  else ([replacement], none)

/-- Takes one byte: the characters it completes, and what has begun after it. -/
def takeByte (begun : Option Begun) (b : Nat) : List Char × Option Begun :=
  match begun with
  | none => beginChar b
  | some g =>
    if g.low ≤ b ∧ b ≤ g.high then
      let value := g.value * 64 + (b - 0x80)
      if g.owed ≤ 1 then ([Char.ofNat value], none)
      else ([], some ⟨g.owed - 1, value, 0x80, 0xBF⟩)
    else
      let next := beginChar b
      (replacement :: next.1, next.2)

/-- Reads bytes to the end, inside a character or between two. -/
def ofBytesFrom : Option Begun → List UInt8 → List Char
  | none, [] => []
  | some _, [] => [replacement]
  | begun, b :: bytes =>
    let taken := takeByte begun b.toNat
    taken.1 ++ ofBytesFrom taken.2 bytes

/-- The text that bytes hold, damaged places replaced. -/
def ofBytes (bytes : List UInt8) : List Char :=
  ofBytesFrom none bytes

/-- The UTF-8 bytes of a text. -/
def toBytes (s : List Char) : List UInt8 :=
  s.flatMap String.utf8EncodeChar

end Songbook.Text
