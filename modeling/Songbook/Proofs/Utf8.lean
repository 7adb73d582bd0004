import Songbook.Text.Bytes

/-!
# Text comes back from its bytes

Reading bytes is defined for all bytes, so it has to say what damaged ones
stand for. Of bytes that were written for a text it says nothing new: each
character comes back whole, no matter what stands after it, and so the text
does. The bounds that a first byte sets on the second are the point: they
refuse overlong forms and surrogates, and a written character has neither.
-/

namespace Songbook.Text

theorem ofBytesFrom_cons (begun : Option Begun) {n : Nat} (hn : n < 256)
    (bytes : List UInt8) :
    ofBytesFrom begun (UInt8.ofNat n :: bytes) =
      (takeByte begun n).1 ++ ofBytesFrom (takeByte begun n).2 bytes := by
  have h : (UInt8.ofNat n).toNat = n := UInt8.toNat_ofNat_of_lt' hn
  cases begun <;> rw [ofBytesFrom, h]

/-! ## Bytes after the first

Each carries six bits. -/

section

variable {value low high bits : Nat}

theorem ofBytesFrom_last (hbits : bits < 64) (hlow : low ≤ bits + 128)
    (hhigh : bits + 128 ≤ high) (bytes : List UInt8) :
    ofBytesFrom (some ⟨1, value, low, high⟩)
      (UInt8.ofNat (bits + 128) :: bytes) =
      Char.ofNat (value * 64 + bits) :: ofBytesFrom none bytes := by
  rw [ofBytesFrom_cons _ (by omega), takeByte, if_pos ⟨hlow, hhigh⟩]
  simp only [Nat.add_sub_cancel, Nat.le_refl, if_true, List.singleton_append]

theorem ofBytesFrom_more {owed : Nat} (hbits : bits < 64)
    (hlow : low ≤ bits + 128) (hhigh : bits + 128 ≤ high) (bytes : List UInt8) :
    ofBytesFrom (some ⟨owed + 2, value, low, high⟩)
      (UInt8.ofNat (bits + 128) :: bytes) =
      ofBytesFrom (some ⟨owed + 1, value * 64 + bits, 0x80, 0xBF⟩) bytes := by
  have hmore : ¬owed + 2 ≤ 1 := by omega
  rw [ofBytesFrom_cons _ (by omega), takeByte, if_pos ⟨hlow, hhigh⟩]
  simp only [Nat.add_sub_cancel, if_neg hmore, List.nil_append]
  rfl

end

/-! ## First bytes -/

theorem beginChar_two {bits : Nat} (hlow : 2 ≤ bits) (hhigh : bits < 32) :
    beginChar (bits + 192) = ([], some ⟨1, bits, 0x80, 0xBF⟩) := by
  rw [beginChar, if_neg (by omega), if_neg (by omega), if_pos (by omega),
    Nat.add_sub_cancel]

/-- The first of three bytes sets bounds that the second keeps, if the
character needs three bytes and is no surrogate. -/
theorem beginChar_three {bits second : Nat} (hbits : bits < 16)
    (hsecond : second < 64) (hshort : bits = 0 → 32 ≤ second)
    (hsurrogate : bits = 13 → second < 32) :
    ∃ low high, beginChar (bits + 224) = ([], some ⟨2, bits, low, high⟩) ∧
      low ≤ second + 128 ∧ second + 128 ≤ high := by
  rw [beginChar, if_neg (by omega), if_neg (by omega), if_neg (by omega),
    Nat.add_sub_cancel]
  split
  · next h =>
    obtain rfl : bits = 0 := by omega
    exact ⟨_, _, rfl, by omega, by omega⟩
  split
  · next h =>
    obtain rfl : bits = 13 := by omega
    exact ⟨_, _, rfl, by omega, by omega⟩
  · rw [if_pos (by omega)]
    exact ⟨_, _, rfl, by omega, by omega⟩

/-- The first of four bytes sets bounds that the second keeps, if the
character needs four bytes and there is such a character. -/
theorem beginChar_four {bits second : Nat} (hbits : bits ≤ 4)
    (hsecond : second < 64) (hshort : bits = 0 → 16 ≤ second)
    (hlast : bits = 4 → second < 16) :
    ∃ low high, beginChar (bits + 240) = ([], some ⟨3, bits, low, high⟩) ∧
      low ≤ second + 128 ∧ second + 128 ≤ high := by
  rw [beginChar, if_neg (by omega), if_neg (by omega), if_neg (by omega),
    if_neg (by omega), if_neg (by omega), if_neg (by omega), Nat.add_sub_cancel]
  split
  · next h =>
    obtain rfl : bits = 0 := by omega
    exact ⟨_, _, rfl, by omega, by omega⟩
  split
  · exact ⟨_, _, rfl, by omega, by omega⟩
  · next h =>
    obtain rfl : bits = 4 := by omega
    exact ⟨_, _, rfl, by omega, by omega⟩

/-! ## Characters -/

theorem ofBytesFrom_utf8EncodeChar (c : Char) (bytes : List UInt8) :
    ofBytesFrom none (String.utf8EncodeChar c ++ bytes) =
      c :: ofBytesFrom none bytes := by
  have hvalid : c.val.toNat < 0xD800 ∨ 0xDFFF < c.val.toNat ∧
      c.val.toNat < 0x110000 := c.valid
  have hc : Char.ofNat c.val.toNat = c := Char.ofNat_toNat c
  simp only [String.utf8EncodeChar]
  generalize c.val.toNat = v at hvalid hc ⊢
  split
  · next h1 =>
    rw [List.singleton_append, ofBytesFrom_cons _ (by omega), takeByte,
      beginChar, if_pos (by omega), hc]
    rfl
  split
  · next h1 h2 =>
    have hv : v / 64 % 32 * 64 + v % 64 = v := by omega
    rw [List.cons_append, ofBytesFrom_cons _ (by omega), takeByte,
      beginChar_two (by omega) (by omega), List.nil_append,
      List.singleton_append, ofBytesFrom_last (by omega) (by omega) (by omega),
      hv, hc]
  split
  · next h1 h2 h3 =>
    have hv : (v / 4096 % 16 * 64 + v / 64 % 64) * 64 + v % 64 = v := by omega
    obtain ⟨low, high, hbegin, hlow, hhigh⟩ :=
      @beginChar_three (v / 4096 % 16) (v / 64 % 64) (by omega) (by omega)
        (by omega) (by omega)
    rw [List.cons_append, ofBytesFrom_cons _ (by omega), takeByte, hbegin,
      List.nil_append, List.cons_append, ofBytesFrom_more (by omega) hlow hhigh,
      List.singleton_append, ofBytesFrom_last (by omega) (by omega) (by omega),
      hv, hc]
  · next h1 h2 h3 =>
    have hv : ((v / 262144 % 8 * 64 + v / 4096 % 64) * 64 + v / 64 % 64) * 64 +
        v % 64 = v := by
      omega
    obtain ⟨low, high, hbegin, hlow, hhigh⟩ :=
      @beginChar_four (v / 262144 % 8) (v / 4096 % 64) (by omega) (by omega)
        (by omega) (by omega)
    rw [List.cons_append, ofBytesFrom_cons _ (by omega), takeByte, hbegin,
      List.nil_append, List.cons_append, ofBytesFrom_more (by omega) hlow hhigh,
      List.cons_append, ofBytesFrom_more (by omega) (by omega) (by omega),
      List.singleton_append, ofBytesFrom_last (by omega) (by omega) (by omega),
      hv, hc]

theorem ofBytes_toBytes (s : List Char) : ofBytes (toBytes s) = s := by
  rw [ofBytes, toBytes]
  induction s with
  | nil => rfl
  | cons c s ih => rw [List.flatMap_cons, ofBytesFrom_utf8EncodeChar, ih]

end Songbook.Text
