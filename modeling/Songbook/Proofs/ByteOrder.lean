import Mathlib.Data.Char
import Mathlib.Data.List.Lex
import Songbook.Proofs.Utf8
import Songbook.Song.Id

/-!
# The order of bytes

Texts are compared by their characters and ids as numbers; whoever keeps them
as bytes compares bytes, the first one first. The two orders are one. For
texts that is a virtue of UTF-8: of two characters the lower one has the lower
byte where their bytes first differ, and no character's bytes begin another's,
so what follows the two does not matter. For ids it holds because all of them
have as many bytes, the highest first.
-/

namespace Songbook

namespace Text

/-! ## Texts -/

/-- The UTF-8 bytes of a text, as numbers. -/
def byteValues (s : List Char) : List Nat :=
  (toBytes s).map UInt8.toNat

/-- Texts with the same bytes are the same, since a text comes back from its
bytes. -/
theorem byteValues_injective {s t : List Char}
    (h : byteValues s = byteValues t) : s = t := by
  have hbytes : toBytes s = toBytes t :=
    List.map_injective_iff.2 (fun _ _ => UInt8.toNat_inj.1) h
  rw [← ofBytes_toBytes s, hbytes, ofBytes_toBytes]

/-- The bytes of a code point: one, two, three or four, as many as it needs. -/
def codeBytes (n : Nat) : List Nat :=
  if n ≤ 127 then [n]
  else if n ≤ 2047 then [n / 64 + 192, n % 64 + 128]
  else if n ≤ 65535 then [n / 4096 + 224, n / 64 % 64 + 128, n % 64 + 128]
  else [n / 262144 + 240, n / 4096 % 64 + 128, n / 64 % 64 + 128, n % 64 + 128]

theorem map_utf8EncodeChar (c : Char) :
    (String.utf8EncodeChar c).map UInt8.toNat = codeBytes c.toNat := by
  have hvalid : c.val.toNat < 0xD800 ∨ 0xDFFF < c.val.toNat ∧
      c.val.toNat < 0x110000 := c.valid
  have hbyte {n : Nat} (hn : n < 256) : (UInt8.ofNat n).toNat = n :=
    UInt8.toNat_ofNat_of_lt' hn
  show (String.utf8EncodeChar c).map UInt8.toNat = codeBytes c.val.toNat
  simp only [String.utf8EncodeChar, codeBytes]
  generalize c.val.toNat = n at hvalid ⊢
  split
  · rw [List.map_singleton, hbyte (by omega)]
  split
  · rw [List.map_cons, List.map_singleton, hbyte (by omega), hbyte (by omega),
      Nat.mod_eq_of_lt (by omega : n / 64 < 32)]
  split
  · rw [List.map_cons, List.map_cons, List.map_singleton, hbyte (by omega),
      hbyte (by omega), hbyte (by omega),
      Nat.mod_eq_of_lt (by omega : n / 4096 < 16)]
  · rw [List.map_cons, List.map_cons, List.map_cons, List.map_singleton,
      hbyte (by omega), hbyte (by omega), hbyte (by omega), hbyte (by omega),
      Nat.mod_eq_of_lt (by omega : n / 262144 < 8)]

theorem byteValues_cons (c : Char) (s : List Char) :
    byteValues (c :: s) = codeBytes c.toNat ++ byteValues s := by
  rw [byteValues, toBytes, List.flatMap_cons, List.map_append,
    map_utf8EncodeChar]
  rfl

/-- The bytes of a lower code point come first, whatever follows either: with
fewer bytes the first one is lower, and with as many the first that differs
is. -/
theorem codeBytes_append_lt {m n : Nat} (h : m < n) (u v : List Nat) :
    codeBytes m ++ u < codeBytes n ++ v := by
  unfold codeBytes
  split_ifs <;>
    simp only [List.cons_append, List.nil_append,
      List.cons_lt_cons_iff] <;> omega

theorem byteValues_lt_of_lt {s t : List Char} (h : s < t) :
    byteValues s < byteValues t := by
  induction h with
  | nil =>
    rw [byteValues_cons, codeBytes]
    split_ifs <;> exact List.nil_lt_cons _ _
  | rel hlt =>
    rw [byteValues_cons, byteValues_cons]
    exact codeBytes_append_lt hlt _ _
  | cons _ ih =>
    rw [byteValues_cons, byteValues_cons]
    exact List.append_left_lt ih

/-- The order of texts by their characters is their order by their bytes. -/
theorem byteValues_lt_iff {s t : List Char} :
    byteValues s < byteValues t ↔ s < t := by
  refine ⟨fun h => ?_, byteValues_lt_of_lt⟩
  rcases lt_trichotomy s t with hst | rfl | hts
  · exact hst
  · exact absurd h (lt_irrefl _)
  · exact absurd h (lt_asymm (byteValues_lt_of_lt hts))

/-! ## Numbers -/

/-- The last bytes of a number, as many as asked for, the highest first. -/
def octets : Nat → Nat → List Nat
  | 0, _ => []
  | count + 1, n => octets count (n / 256) ++ [n % 256]

theorem length_octets (count n : Nat) : (octets count n).length = count := by
  induction count generalizing n with
  | zero => rfl
  | succ count ih => rw [octets, List.length_append, ih, List.length_singleton]

/-- Of two lists as long as each other, the last items count only when all
before them agree. -/
theorem append_singleton_lt_iff {s t : List Nat} (h : s.length = t.length)
    {a b : Nat} :
    s ++ [a] < t ++ [b] ↔ s < t ∨ s = t ∧ a < b := by
  induction s generalizing t with
  | nil =>
    obtain rfl : t = [] := List.length_eq_zero_iff.1 h.symm
    simp [List.cons_lt_cons_iff]
  | cons c s ih =>
    cases t with
    | nil => cases h
    | cons d t =>
      rw [List.cons_append, List.cons_append, List.cons_lt_cons_iff,
        List.cons_lt_cons_iff, ih (Nat.succ.inj h), List.cons.injEq]
      tauto

theorem octets_inj {count m n : Nat} (hm : m < Nat.pow 256 count)
    (hn : n < Nat.pow 256 count) (h : octets count m = octets count n) :
    m = n := by
  induction count generalizing m n with
  | zero =>
    have hm' : m < 1 := hm
    have hn' : n < 1 := hn
    omega
  | succ count ih =>
    have hm' : m / 256 < Nat.pow 256 count :=
      Nat.div_lt_of_lt_mul (Nat.mul_comm _ _ ▸ hm)
    have hn' : n / 256 < Nat.pow 256 count :=
      Nat.div_lt_of_lt_mul (Nat.mul_comm _ _ ▸ hn)
    obtain ⟨hrest, hlast⟩ :=
      List.append_inj h (by rw [length_octets, length_octets])
    have := ih hm' hn' hrest
    have := List.singleton_injective hlast
    omega

/-- Numbers that fit into as many bytes are in the order of these. -/
theorem octets_lt_iff {count m n : Nat} (hm : m < Nat.pow 256 count)
    (hn : n < Nat.pow 256 count) :
    octets count m < octets count n ↔ m < n := by
  induction count generalizing m n with
  | zero =>
    have hm' : m < 1 := hm
    have hn' : n < 1 := hn
    have hlt : ¬m < n := by omega
    exact iff_of_false (lt_irrefl _) hlt
  | succ count ih =>
    have hm' : m / 256 < Nat.pow 256 count :=
      Nat.div_lt_of_lt_mul (Nat.mul_comm _ _ ▸ hm)
    have hn' : n / 256 < Nat.pow 256 count :=
      Nat.div_lt_of_lt_mul (Nat.mul_comm _ _ ▸ hn)
    have heq : octets count (m / 256) = octets count (n / 256) ↔
        m / 256 = n / 256 :=
      ⟨octets_inj hm' hn', fun h => by rw [h]⟩
    rw [octets, octets,
      append_singleton_lt_iff (by rw [length_octets, length_octets]), heq,
      ih hm' hn']
    omega

end Text

namespace SongId

/-- The sixteen bytes of an id. -/
def octets (id : SongId) : List Nat :=
  Text.octets 16 id.bits.toNat

theorem octets_lt_iff {a b : SongId} :
    a.octets < b.octets ↔ a.bits.toNat < b.bits.toNat :=
  Text.octets_lt_iff a.bits.isLt b.bits.isLt

theorem octets_inj {a b : SongId} (h : a.octets = b.octets) : a = b := by
  obtain ⟨a⟩ := a
  obtain ⟨b⟩ := b
  exact congrArg SongId.mk
    (BitVec.eq_of_toNat_eq (@Text.octets_inj 16 _ _ a.isLt b.isLt h))

end SongId

end Songbook
