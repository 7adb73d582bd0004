/-!
# Decimal numerals

Reads and writes whole numbers in base ten, and narrows them to 64 bits.
Reading admits one sign and any number of leading zeros; writing gives the
shortest numeral. No arithmetic here wraps: a number is exact until it is
asked to fit.
-/

namespace Songbook.Text

/-- Reads digits, one at least. -/
def natural? (s : List Char) : Option Nat :=
  if !s.isEmpty && s.all Char.isDigit then some (Nat.ofDigitChars 10 s 0)
  else none

/-- Reads a numeral with at most one sign before it. -/
def signed? : List Char → Option Int
  | '+' :: s => (natural? s).map Int.ofNat
  | '-' :: s => (natural? s).map fun n => -Int.ofNat n
  | s => (natural? s).map Int.ofNat

/-- The shortest numeral of a number, a minus sign before it when it is
negative. -/
def decimal (n : Int) : String :=
  if n < 0 then "-" ++ n.natAbs.repr else n.natAbs.repr

/-- A text with blanks or zeros put before it until it has the width. -/
def padStart (width : Nat) (fill : Char) (s : List Char) : List Char :=
  List.replicate (width - s.length) fill ++ s

/-- A natural number in at least `width` digits. -/
def digits (width n : Nat) : List Char :=
  padStart width '0' (Nat.toDigits 10 n)

/-- The number in 64 bits, if it fits. -/
def fit? (n : Int) : Option Int64 :=
  if h : Int64.minValue.toInt ≤ n ∧ n ≤ Int64.maxValue.toInt then
    some (Int64.ofIntLE n h.1 h.2)
  else none

theorem fit?_eq_some_iff {n : Int} {x : Int64} :
    fit? n = some x ↔ x.toInt = n := by
  unfold fit?
  split
  · next h =>
    rw [Option.some.injEq, ← Int64.toInt_inj, Int64.toInt_ofIntLE]
    exact eq_comm
  · next h =>
    simp only [reduceCtorEq, false_iff]
    rintro rfl
    exact h ⟨Int64.le_toInt x, Int64.toInt_le x⟩

@[simp] theorem fit?_toInt (x : Int64) : fit? x.toInt = some x :=
  fit?_eq_some_iff.2 rfl

theorem natural?_toDigits (n : Nat) :
    natural? (Nat.toDigits 10 n) = some n := by
  have h : (Nat.toDigits 10 n).all Char.isDigit = true :=
    List.all_eq_true.2 fun _ hc =>
      Nat.isDigit_of_mem_toDigits (by decide) (by decide) hc
  have hne : (Nat.toDigits 10 n).isEmpty = false := by
    simp [Nat.toDigits_ne_nil]
  simp [natural?, h, hne]

theorem signed?_decimal (n : Int) : signed? (decimal n).toList = some n := by
  unfold decimal
  split
  · next h =>
    rw [String.toList_append]
    simp only [Nat.toList_repr]
    show (natural? (Nat.toDigits 10 n.natAbs)).map
        (fun k => -Int.ofNat k) = some n
    rw [natural?_toDigits, Option.map_some, Int.ofNat_eq_natCast]
    congr 1
    omega
  · next h =>
    rw [Nat.toList_repr]
    have hd : ∀ c ∈ Nat.toDigits 10 n.natAbs, c.isDigit = true := fun c hc =>
      Nat.isDigit_of_mem_toDigits (by decide) (by decide) hc
    have hr := natural?_toDigits n.natAbs
    have hn : (n.natAbs : Int) = n := by omega
    cases hs : Nat.toDigits 10 n.natAbs with
    | nil => exact absurd hs Nat.toDigits_ne_nil
    | cons c s =>
      have hc : c.isDigit = true := hd c (by simp [hs])
      unfold signed?
      split
      · next heq =>
          simp only [List.cons.injEq] at heq; rw [heq.1] at hc;
            exact absurd hc (by decide)
      · next heq =>
          simp only [List.cons.injEq] at heq; rw [heq.1] at hc;
            exact absurd hc (by decide)
      · rw [← hs, hr, Option.map_some, Int.ofNat_eq_natCast, hn]

end Songbook.Text
