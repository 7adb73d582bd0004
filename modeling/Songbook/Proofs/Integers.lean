import Mathlib.Data.List.Forall2
import Mathlib.Data.List.Induction
import Mathlib.Data.Nat.Digits.Defs
import Songbook.Proofs.Numerals
import Songbook.Proofs.Trimming

/-!
# Which texts are integers

An integer operand is a numeral between blanks: digits, at least one of them,
perhaps behind one sign. `IsNumeral` says so without a reader, and says of
each numeral what it counts, place by place and without bound. The main
statement is that an operand is read as a number of 64 bits exactly when it
holds a numeral of that number, and refused, with the text as it was typed,
exactly when it holds no numeral or one of a number that needs more than 64
bits.

The least number is no exception. A numeral is read with its sign, and only
the signed number has to fit, so it does not matter that what stands behind
the minus sign would not fit by itself.

Durations and dates are integers between separators. `PartsHold` says which
ones a text holds.
-/

namespace Songbook

namespace Text

/-- The number that digits stand for: the last one counts ones, and each one
before it counts ten times as much as the next. -/
def placeValue (s : List Char) : Nat :=
  Nat.ofDigits 10 (s.reverse.map fun c => c.toNat - '0'.toNat)

/-- The numerals, each with its number. -/
inductive IsNumeral : List Char → Int → Prop
  | plain {s : List Char} (hne : s ≠ []) (hdigits : ∀ c ∈ s, c.isDigit = true) :
    IsNumeral s (placeValue s)
  | plus {s : List Char} (hne : s ≠ []) (hdigits : ∀ c ∈ s, c.isDigit = true) :
    IsNumeral ('+' :: s) (placeValue s)
  | minus {s : List Char} (hne : s ≠ []) (hdigits : ∀ c ∈ s, c.isDigit = true) :
    IsNumeral ('-' :: s) (-placeValue s)

variable {s : List Char}

/-- Counting digits from the left, as a reader does, comes to the same as
counting places. -/
theorem ofDigitChars_eq_placeValue (s : List Char) :
    Nat.ofDigitChars 10 s 0 = placeValue s := by
  induction s using List.reverseRecOn with
  | nil => rfl
  | append_singleton s c ih =>
      rw [placeValue] at ih ⊢
      rw [Nat.ofDigitChars_append, ih, List.reverse_append,
        List.reverse_singleton, List.singleton_append, List.map_cons,
        Nat.ofDigits_cons, Nat.ofDigitChars_cons, Nat.ofDigitChars_nil,
        Nat.add_comm]

theorem natural?_eq_some_iff {n : Nat} :
    natural? s = some n ↔
      s ≠ [] ∧ (∀ c ∈ s, c.isDigit = true) ∧ placeValue s = n := by
  rw [natural?, ofDigitChars_eq_placeValue, ← List.all_eq_true]
  cases s with
  | nil => simp
  | cons c s => simp

theorem natural?_map_eq_some_iff {n : Int} {f : Nat → Int} :
    (natural? s).map f = some n ↔
      s ≠ [] ∧ (∀ c ∈ s, c.isDigit = true) ∧ f (placeValue s) = n := by
  rw [Option.map_eq_some_iff]
  constructor
  · rintro ⟨m, hm, rfl⟩
    obtain ⟨hne, hdigits, rfl⟩ := natural?_eq_some_iff.1 hm
    exact ⟨hne, hdigits, rfl⟩
  · rintro ⟨hne, hdigits, rfl⟩
    exact ⟨_, natural?_eq_some_iff.2 ⟨hne, hdigits, rfl⟩, rfl⟩

theorem signed?_eq_some_iff {n : Int} : signed? s = some n ↔ IsNumeral s n := by
  constructor
  · intro h
    unfold signed? at h
    split at h
    · obtain ⟨hne, hdigits, rfl⟩ := natural?_map_eq_some_iff.1 h
      exact .plus hne hdigits
    · obtain ⟨hne, hdigits, rfl⟩ := natural?_map_eq_some_iff.1 h
      exact .minus hne hdigits
    · obtain ⟨hne, hdigits, rfl⟩ := natural?_map_eq_some_iff.1 h
      exact .plain hne hdigits
  · intro h
    cases h with
    | plain hne hdigits =>
        rw [signed?_of_digits hdigits]
        exact natural?_map_eq_some_iff.2 ⟨hne, hdigits, rfl⟩
    | plus hne hdigits => exact natural?_map_eq_some_iff.2 ⟨hne, hdigits, rfl⟩
    | minus hne hdigits => exact natural?_map_eq_some_iff.2 ⟨hne, hdigits, rfl⟩

theorem IsNumeral.isBlank_eq_false {n : Int} (h : IsNumeral s n) :
    ∀ c ∈ s, isBlank c = false := by
  cases h with
  | plain hne hdigits =>
      exact fun c hc => isBlank_eq_false_of_isDigit (hdigits c hc)
  | plus hne hdigits | minus hne hdigits =>
      intro c hc
      rcases List.mem_cons.1 hc with rfl | hc
      · decide
      · exact isBlank_eq_false_of_isDigit (hdigits c hc)

theorem IsNumeral.toNat_lt {n : Int} (h : IsNumeral s n) :
    ∀ c ∈ s, c.toNat < 65 := by
  have hdigit : ∀ c : Char, c.isDigit = true → c.toNat < 65 := fun c hc =>
    Nat.lt_of_le_of_lt (toNat_bounds_of_isDigit hc).2 (by decide)
  cases h with
  | plain hne hdigits => exact fun c hc => hdigit c (hdigits c hc)
  | plus hne hdigits | minus hne hdigits =>
      intro c hc
      rcases List.mem_cons.1 hc with rfl | hc
      · decide
      · exact hdigit c (hdigits c hc)

/-- Whether a number fits in 64 bits. -/
def Fits (n : Int) : Prop :=
  -9223372036854775808 ≤ n ∧ n ≤ 9223372036854775807

instance (n : Int) : Decidable (Fits n) :=
  inferInstanceAs (Decidable (_ ∧ _))

theorem fits_toInt (x : Int64) : Fits x.toInt :=
  ⟨Int64.le_toInt x, Int64.toInt_le x⟩

theorem Fits.exists_toInt_eq {n : Int} (h : Fits n) :
    ∃ x : Int64, x.toInt = n :=
  ⟨Int64.ofIntLE n h.1 h.2, Int64.toInt_ofIntLE⟩

/-! ## Written numbers -/

/-- A number in decimal, with zeros put between its sign and its digits. -/
def zeroFilled (zeros : Nat) (n : Int) : List Char :=
  (if n < 0 then ['-'] else []) ++
    (List.replicate zeros '0' ++ Nat.toDigits 10 n.natAbs)

theorem zeroFilled_zero (n : Int) : zeroFilled 0 n = (decimal n).toList := by
  rw [zeroFilled, decimal, List.replicate_zero, List.nil_append]
  split
  · rw [String.toList_append, Nat.toList_repr]
    rfl
  · exact Nat.toList_repr.symm

theorem isNumeral_zeroFilled (zeros : Nat) (n : Int) :
    IsNumeral (zeroFilled zeros n) n := by
  have hdigits : List.replicate zeros '0' ++ Nat.toDigits 10 n.natAbs =
      digits (zeros + (Nat.toDigits 10 n.natAbs).length) n.natAbs := by
    rw [digits, padStart, Nat.add_sub_cancel]
  have hnatural :=
    natural?_digits (zeros + (Nat.toDigits 10 n.natAbs).length) n.natAbs
  rw [← hdigits] at hnatural
  obtain ⟨hne, hall, hvalue⟩ := natural?_eq_some_iff.1 hnatural
  rw [zeroFilled]
  split
  · next h =>
    have := IsNumeral.minus hne hall
    rwa [hvalue, show -(n.natAbs : Int) = n by omega] at this
  · next h =>
    have := IsNumeral.plain hne hall
    rwa [hvalue, show (n.natAbs : Int) = n by omega] at this

end Text

namespace Value

open Songbook.Text

variable {s : List Char} {text : String}

/-- Whether a text is a numeral of a number, blanks around it aside. -/
def HoldsInteger (s : List Char) (n : Int) : Prop :=
  ∃ before numeral after, isAllBlank before = true ∧ isAllBlank after = true ∧
    s = before ++ numeral ++ after ∧ IsNumeral numeral n

theorem holdsInteger_iff {n : Int} :
    HoldsInteger s n ↔ signed? (trim s) = some n := by
  rw [signed?_eq_some_iff]
  constructor
  · rintro ⟨before, numeral, after, hbefore, hafter, rfl, hnumeral⟩
    rw [trim_surround hbefore hafter, trim_eq_self hnumeral.isBlank_eq_false]
    exact hnumeral
  · intro h
    obtain ⟨before, after, hbefore, hafter, hs⟩ := exists_eq_trim s
    exact ⟨before, trim s, after, hbefore, hafter, hs, h⟩

theorem HoldsInteger.unique {m n : Int} (hm : HoldsInteger s m)
    (hn : HoldsInteger s n) :
    m = n := by
  rw [holdsInteger_iff] at hm hn
  exact Option.some.inj (hm.symm.trans hn)

theorem integer?_eq_some_iff {n : Int64} :
    integer? s = some n ↔ HoldsInteger s n.toInt := by
  rw [holdsInteger_iff, integer?, Option.bind_eq_some_iff]
  constructor
  · rintro ⟨m, hm, hfit⟩
    rw [hm, fit?_eq_some_iff.1 hfit]
  · intro h
    exact ⟨_, h, fit?_toInt n⟩

/-- No number is read exactly when every numeral that a text holds is one of a
number that does not fit. -/
theorem integer?_eq_none_iff :
    integer? s = none ↔ ∀ n, HoldsInteger s n → ¬Fits n := by
  constructor
  · intro h n hn hfits
    obtain ⟨x, rfl⟩ := hfits.exists_toInt_eq
    rw [integer?_eq_some_iff.2 hn] at h
    cases h
  · intro h
    cases hread : integer? s with
    | none => rfl
    | some n =>
        exact absurd (fits_toInt n) (h n.toInt (integer?_eq_some_iff.1 hread))

/-- An integer is read alike whatever blanks stand around it. -/
theorem ignoresBlanks_integer? : IgnoresBlanks integer? := by
  intro before after hbefore hafter s
  rw [integer?, integer?, trim_surround hbefore hafter]

/-! ## Integers between separators -/

theorem readInteger_ofList_eq_ok_iff {n : Int64} :
    readInteger (String.ofList s) = .ok n ↔ integer? s = some n := by
  rw [readInteger, String.toList_ofList]
  cases integer? s with
  | none => simp
  | some m => simp

/-- Whether the parts of a text between separators hold integers, these ones
in order. -/
def PartsHold (separator : Char) (s : List Char) (numbers : List Int64) :
    Prop :=
  List.Forall₂ (fun part n => readInteger (String.ofList part) = .ok n)
    (s.splitOn separator) numbers

theorem partsHold_iff_map {separator : Char} {numbers : List Int64} :
    PartsHold separator s numbers ↔
      (s.splitOn separator).map integer? = numbers.map some := by
  rw [PartsHold, ← List.forall₂_eq_eq_eq, List.forall₂_map_left_iff,
    List.forall₂_map_right_iff]
  simp only [readInteger_ofList_eq_ok_iff]

theorem PartsHold.unique {separator : Char} {numbers numbers' : List Int64}
    (h : PartsHold separator s numbers) (h' : PartsHold separator s numbers') :
    numbers = numbers' := by
  rw [partsHold_iff_map] at h h'
  exact (List.map_inj_right fun _ _ => Option.some.inj).1 (h.symm.trans h')

/-! ## What is read -/

/-- An operand is read as a number of 64 bits exactly when it holds a numeral
of that number, and is refused, with its text as it was typed, exactly when it
holds no numeral of a number that fits. Every number that is written in
decimal between blanks, with any zeros before its digits, reads back if it
fits, the least number included, and is refused if it does not. -/
theorem readInteger_exact :
    (∀ text : String,
      (∀ n, readInteger text = .ok n ↔ HoldsInteger text.toList n.toInt) ∧
      (readInteger text = .error (.integer text) ↔
        ∀ n, HoldsInteger text.toList n → ¬Fits n)) ∧
    (∀ n, (decimal n).toList = zeroFilled 0 n) ∧
    ∀ before after, isAllBlank before = true → isAllBlank after = true →
      ∀ zeros,
      (∀ n : Int64,
        readInteger (String.ofList
          (before ++ zeroFilled zeros n.toInt ++ after)) = .ok n) ∧
      ∀ n, ¬Fits n →
        readInteger (String.ofList (before ++ zeroFilled zeros n ++ after)) =
          .error (.integer
            (String.ofList (before ++ zeroFilled zeros n ++ after))) := by
  have hok : ∀ (text : String) n, readInteger text = .ok n ↔
      HoldsInteger text.toList n.toInt :=
    fun text n => readInteger_eq_ok_iff.trans holdsInteger_iff.symm
  have herror : ∀ text : String, readInteger text = .error (.integer text) ↔
      ∀ n, HoldsInteger text.toList n → ¬Fits n := by
    intro text
    rw [readInteger_eq_error_iff, integer?_eq_none_iff]
    exact and_iff_left rfl
  refine ⟨fun text => ⟨hok text, herror text⟩,
    fun n => (zeroFilled_zero n).symm, ?_⟩
  intro before after hbefore hafter zeros
  have hholds : ∀ n : Int, HoldsInteger (String.ofList
      (before ++ zeroFilled zeros n ++ after)).toList n := fun n =>
    ⟨before, _, after, hbefore, hafter, String.toList_ofList,
      isNumeral_zeroFilled zeros n⟩
  refine ⟨fun n => (hok _ n).2 (hholds _),
    fun n hout => (herror _).2 fun m hm => ?_⟩
  rw [hm.unique (hholds n)]
  exact hout

/-- The least number reads back behind zeros and between blanks that are not
ASCII, and the same digits without the sign are refused. -/
theorem readInteger_exact_extremes :
    isAllBlank ['\u00A0'] = true ∧ isAllBlank ['\u2003', '\n'] = true ∧
      readInteger "\u00A0-009223372036854775808\u2003\n" = .ok Int64.minValue ∧
      ¬Fits 9223372036854775808 ∧
      readInteger "\u00A0009223372036854775808\u2003\n" =
        .error (.integer "\u00A0009223372036854775808\u2003\n") := by
  have hbefore : isAllBlank ['\u00A0'] = true := by decide
  have hafter : isAllBlank ['\u2003', '\n'] = true := by decide
  have hout : ¬Fits 9223372036854775808 := by decide
  obtain ⟨-, -, hwritten⟩ := readInteger_exact
  obtain ⟨hread, hrefused⟩ := hwritten _ _ hbefore hafter 2
  exact ⟨hbefore, hafter, hread Int64.minValue, hout, hrefused _ hout⟩

end Value

end Songbook
