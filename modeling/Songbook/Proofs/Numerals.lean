import Songbook.Value.Duration

/-!
# Written numbers read back

A number is written without blanks around it and with no colon in it, so an
operand that is a written number is trimmed to itself, is a duration of one
part, and reads as what was written. Zeros that fill a numeral to a width
change nothing, and where a numeral stands before other text it ends at the
first character that is no digit.
-/

namespace Songbook

namespace Text

/-! ## Blanks -/

theorem trimStart_eq_self {s : List Char} (h : ∀ c ∈ s, isBlank c = false) :
    trimStart s = s := by
  cases s with
  | nil => rfl
  | cons c s =>
    rw [trimStart,
      List.dropWhile_cons_of_neg (by rw [h c List.mem_cons_self]; simp)]

theorem trim_eq_self {s : List Char} (h : ∀ c ∈ s, isBlank c = false) :
    trim s = s := by
  rw [trim, trimEnd, trimStart_eq_self h,
    trimStart_eq_self fun c hc => h c (List.mem_reverse.1 hc),
    List.reverse_reverse]

theorem toNat_bounds_of_isDigit {c : Char} (h : c.isDigit = true) :
    48 ≤ c.toNat ∧ c.toNat ≤ 57 := by
  simp only [Char.isDigit, Bool.and_eq_true, decide_eq_true_eq] at h
  exact ⟨h.1, h.2⟩

theorem isBlank_eq_false_of_isDigit {c : Char} (h : c.isDigit = true) :
    isBlank c = false := by
  have hc := toNat_bounds_of_isDigit h
  simp only [isBlank, Bool.or_eq_false_iff, Bool.and_eq_false_iff,
    decide_eq_false_iff_not, beq_eq_false_iff_ne]
  omega

/-! ## Numerals -/

theorem isDigit_of_mem_toDigits {n : Nat} :
    ∀ c ∈ Nat.toDigits 10 n, c.isDigit = true :=
  fun _ h => Nat.isDigit_of_mem_toDigits (by decide) (by decide) h

theorem ne_of_isDigit {c d : Char} (hc : c.isDigit = true)
    (hd : d.isDigit = false) : c ≠ d := by
  rintro rfl
  rw [hc] at hd
  cases hd

theorem toDigits_injective {m n : Nat}
    (h : Nat.toDigits 10 m = Nat.toDigits 10 n) : m = n := by
  have hm := natural?_toDigits m
  rw [h, natural?_toDigits] at hm
  exact (Option.some.inj hm).symm

/-- No number but zero begins with a zero. -/
theorem head?_toDigits_ne {n : Nat} (h : n ≠ 0) :
    (Nat.toDigits 10 n).head? ≠ some '0' := by
  induction n using Nat.strongRecOn with
  | ind n ih =>
    by_cases hn : n < 10
    · have hdigits : ∀ n < 10, n ≠ 0 →
          [Nat.digitChar n].head? ≠ some '0' := by decide
      rw [Nat.toDigits_of_lt_base hn]
      exact hdigits n hn h
    · rw [Nat.toDigits_of_base_le (by decide) (by omega), List.head?_append,
        Option.or_of_isSome (List.isSome_head?.2 Nat.toDigits_ne_nil)]
      exact ih (n / 10) (by omega) (by omega)

theorem not_leadingZero_toDigits (n : Nat) :
    ¬(1 < (Nat.toDigits 10 n).length ∧
      (Nat.toDigits 10 n).head? = some '0') := by
  intro ⟨hlength, hhead⟩
  by_cases hzero : n = 0
  · rw [hzero, Nat.toDigits_zero] at hlength
    exact absurd hlength (by decide)
  · exact head?_toDigits_ne hzero hhead

/-- A numeral ends where no digit follows. -/
theorem toDigits_append_inj {m n : Nat} {s t : List Char}
    (hs : s.takeWhile Char.isDigit = []) (ht : t.takeWhile Char.isDigit = [])
    (h : Nat.toDigits 10 m ++ s = Nat.toDigits 10 n ++ t) :
    m = n ∧ s = t := by
  have hd := congrArg (List.takeWhile Char.isDigit) h
  rw [List.takeWhile_append_of_pos isDigit_of_mem_toDigits, hs,
    List.takeWhile_append_of_pos isDigit_of_mem_toDigits, ht, List.append_nil,
    List.append_nil] at hd
  have hmn := toDigits_injective hd
  subst hmn
  exact ⟨rfl, List.append_cancel_left h⟩

theorem isDigit_of_mem_digits {width n : Nat} :
    ∀ c ∈ digits width n, c.isDigit = true := by
  intro c hc
  rcases List.mem_append.1 hc with hc | hc
  · rw [List.eq_of_mem_replicate hc]
    rfl
  · exact isDigit_of_mem_toDigits c hc

theorem digits_ne_nil (width n : Nat) : digits width n ≠ [] := by
  rw [digits, padStart]
  exact List.append_ne_nil_of_right_ne_nil _ Nat.toDigits_ne_nil

theorem ofDigitChars_replicate_zero (k : Nat) (s : List Char) :
    Nat.ofDigitChars 10 (List.replicate k '0' ++ s) 0 =
      Nat.ofDigitChars 10 s 0 := by
  induction k with
  | zero => rfl
  | succ k ih =>
    rw [List.replicate_succ, List.cons_append, Nat.ofDigitChars_cons]; exact ih

theorem natural?_digits (width n : Nat) :
    natural? (digits width n) = some n := by
  have hall : (digits width n).all Char.isDigit = true :=
    List.all_eq_true.2 isDigit_of_mem_digits
  have hne : (digits width n).isEmpty = false :=
    List.isEmpty_eq_false_iff.2 (digits_ne_nil _ _)
  have hn := natural?_toDigits n
  rw [natural?] at hn
  split at hn
  · rw [natural?, hall, hne]
    show some (Nat.ofDigitChars 10 (digits width n) 0) = some n
    rw [digits, padStart, ofDigitChars_replicate_zero]
    exact hn
  · cases hn

/-- A numeral has no sign, so reading one with a sign allowed reads it as it
is. -/
theorem signed?_of_digits {s : List Char} (h : ∀ c ∈ s, c.isDigit = true) :
    signed? s = (natural? s).map Int.ofNat := by
  unfold signed?
  split
  · exact absurd (h '+' List.mem_cons_self) (by decide)
  · exact absurd (h '-' List.mem_cons_self) (by decide)
  · rfl

theorem signed?_digits (width n : Nat) :
    signed? (digits width n) = some (n : Int) := by
  rw [signed?_of_digits isDigit_of_mem_digits, natural?_digits]
  rfl

theorem mem_decimal {n : Int} :
    ∀ c ∈ (decimal n).toList, c = '-' ∨ c.isDigit = true := by
  intro c hc
  have hdigit : c ∈ n.natAbs.repr.toList → c.isDigit = true := by
    intro h
    rw [Nat.toList_repr] at h
    exact isDigit_of_mem_toDigits c h
  rw [decimal] at hc
  split at hc
  · rw [String.toList_append] at hc
    rcases List.mem_append.1 hc with hc | hc
    · exact .inl (List.mem_singleton.1 hc)
    · exact .inr (hdigit hc)
  · exact .inr (hdigit hc)

theorem isBlank_of_mem_decimal {n : Int} :
    ∀ c ∈ (decimal n).toList, isBlank c = false := by
  intro c hc
  rcases mem_decimal c hc with rfl | hd
  · decide
  · exact isBlank_eq_false_of_isDigit hd

end Text

namespace Value

open Songbook.Text

theorem integer?_of_signed? {s : List Char} {n : Int}
    (hblank : ∀ c ∈ s, isBlank c = false) (hs : signed? s = some n)
    (h₁ : -9223372036854775808 ≤ n) (h₂ : n ≤ 9223372036854775807) :
    ∃ x, integer? s = some x ∧ x.toInt = n := by
  refine ⟨Int64.ofIntLE n h₁ h₂, ?_, Int64.toInt_ofIntLE⟩
  rw [integer?, trim_eq_self hblank, hs, Option.bind_some, fit?_eq_some_iff]
  exact Int64.toInt_ofIntLE

theorem integer?_decimal (n : Int64) :
    integer? (decimal n.toInt).toList = some n := by
  rw [integer?, trim_eq_self isBlank_of_mem_decimal, signed?_decimal]
  exact fit?_toInt n

theorem readInteger_decimal (n : Int64) :
    readInteger (decimal n.toInt) = .ok n := by
  rw [readInteger, integer?_decimal]

theorem readDuration_decimal (n : Int64) :
    readDuration (decimal n.toInt) = .ok n := by
  have hcolon : ':' ∉ (decimal n.toInt).toList := by
    intro h
    rcases mem_decimal _ h with h | h
    · exact absurd h (by decide)
    · exact absurd h (by decide)
  have hparts : durationParts (decimal n.toInt).toList =
      [(decimal n.toInt).toList] := by
    rw [durationParts, trim_eq_self isBlank_of_mem_decimal,
      List.splitOn_eq_singleton hcolon]
  have hsum : durationFrom [(decimal n.toInt).toList] 1 0 = some n := by
    simp only [durationFrom, integer?_decimal, Int.mul_one, fit?_toInt,
      Option.bind_eq_bind, Option.bind_some]
    rw [show (0 : Int64).toInt + n.toInt = n.toInt from Int.zero_add _,
      fit?_toInt]
    rfl
  rw [readDuration, hparts]
  simp only [List.length_singleton, List.reverse_singleton, hsum]
  rfl

end Value

end Songbook
