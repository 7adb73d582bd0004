import Mathlib.Data.List.Forall2
import Songbook.Proofs.Durations
import Songbook.Proofs.Integers

/-!
# Sums of seconds, minutes and hours

A duration is summed from the right in 64 bits, each part at sixty times the
weight of the part after it. What it ought to come to is a sum in unbounded
integers, `exactSeconds`; what a machine comes to is `wrappingSum`, whose
products and sums wrap around. A duration is accepted exactly when no step on
the way wraps, and then the two agree.

That alone does not say which durations are accepted, as a step may leave 64
bits though the whole would fit. It cannot if the parts have one sign: every
product and every sum on the way then lies between zero and the whole, so it
fits if the whole does. Parts of both signs are the only ones for which the
order of the steps is seen.
-/

namespace Songbook.Value

open Songbook.Text

/-! ## Exact sums and sums in 64 bits -/

/-- The sum of parts, the first at `weight` each and every next at sixty times
as much. -/
def weightedSum (weight : Int) : List Int64 → Int
  | [] => 0
  | n :: counts => n.toInt * weight + weightedSum (weight * 60) counts

/-- The seconds in parts that stand as in a duration: the last is seconds, the
one before it minutes and the one before that hours. -/
def exactSeconds (counts : List Int64) : Int :=
  weightedSum 1 counts.reverse

theorem exactSeconds_pair (minutes seconds : Int64) :
    exactSeconds [minutes, seconds] = minutes.toInt * 60 + seconds.toInt := by
  simp only [exactSeconds, List.reverse_cons, List.reverse_nil, List.nil_append,
    List.cons_append, weightedSum]
  omega

theorem exactSeconds_triple (hours minutes seconds : Int64) :
    exactSeconds [hours, minutes, seconds] =
      hours.toInt * 3600 + minutes.toInt * 60 + seconds.toInt := by
  simp only [exactSeconds, List.reverse_cons, List.reverse_nil, List.nil_append,
    List.cons_append, weightedSum]
  omega

/-- The sum of parts added to a total, all in 64 bits, where what does not fit
wraps around. -/
def wrappingSum (weight total : Int64) : List Int64 → Int64
  | [] => total
  | n :: counts => wrappingSum (weight * 60) (total + n * weight) counts

/-- Whether no product and no sum wraps around when parts are added to a
total. -/
def NeverWraps (weight total : Int64) : List Int64 → Prop
  | [] => True
  | n :: counts =>
    (n * weight).toInt = n.toInt * weight.toInt ∧
      (total + n * weight).toInt = total.toInt + (n * weight).toInt ∧
      (weight * 60).toInt = weight.toInt * 60 ∧
      NeverWraps (weight * 60) (total + n * weight) counts

variable {weight total v : Int64} {counts : List Int64}

theorem bmod_eq_self_iff {n : Int} : n.bmod (2 ^ 64) = n ↔ Fits n := by
  rw [Int.bmod_eq_iff (by decide), Fits]
  norm_num
  omega

theorem toInt_mul_eq_iff {m n : Int64} :
    (m * n).toInt = m.toInt * n.toInt ↔ Fits (m.toInt * n.toInt) := by
  rw [Int64.toInt_mul, bmod_eq_self_iff]

theorem toInt_add_eq_iff {m n : Int64} :
    (m + n).toInt = m.toInt + n.toInt ↔ Fits (m.toInt + n.toInt) := by
  rw [Int64.toInt_add, bmod_eq_self_iff]

/-- A step that is refused when it leaves 64 bits goes on, if it does, with
what it wraps to. -/
theorem exists_toInt_eq_iff {exact : Int} {wrapped : Int64} {P : Int64 → Prop}
    (h : wrapped.toInt = exact ↔ Fits exact) :
    (∃ x : Int64, x.toInt = exact ∧ P x) ↔
      wrapped.toInt = exact ∧ P wrapped := by
  constructor
  · rintro ⟨x, rfl, hP⟩
    have hwrapped := h.2 (fits_toInt x)
    rw [Int64.toInt_inj.1 hwrapped]
    exact ⟨rfl, hP⟩
  · rintro ⟨hexact, hP⟩
    exact ⟨wrapped, hexact, hP⟩

/-- A sum in 64 bits is exact if nothing wraps around. -/
theorem NeverWraps.toInt_wrappingSum (h : NeverWraps weight total counts) :
    (wrappingSum weight total counts).toInt =
      total.toInt + weightedSum weight.toInt counts := by
  induction counts generalizing weight total with
  | nil => rw [wrappingSum, weightedSum, Int.add_zero]
  | cons n counts ih =>
      obtain ⟨hproduct, hsum, hweight, hrest⟩ := h
      rw [wrappingSum, ih hrest, hsum, hproduct, hweight, weightedSum,
        Int.add_assoc]

/-- Whether the weights of so many parts fit. -/
def HasRoom (weight : Int64) : Nat → Prop
  | 0 => 0 ≤ weight.toInt
  | length + 1 => 0 ≤ weight.toInt ∧ (weight * 60).toInt = weight.toInt * 60 ∧
    HasRoom (weight * 60) length

theorem HasRoom.nonneg {length : Nat} (h : HasRoom weight length) :
    0 ≤ weight.toInt := by
  cases length with
  | zero => exact h
  | succ length => exact h.1

theorem HasRoom.of_le {least length : Nat} (h : HasRoom weight length)
    (hle : least ≤ length) :
    HasRoom weight least := by
  induction least generalizing weight length with
  | zero => exact h.nonneg
  | succ least ih =>
      cases length with
      | zero => exact absurd hle (Nat.not_succ_le_zero least)
      | succ length => exact ⟨h.1, h.2.1, ih h.2.2 (Nat.le_of_succ_le_succ hle)⟩

/-- There is room for hours, minutes and seconds. -/
theorem hasRoom_three : HasRoom 1 3 := by
  have hend : 0 ≤ (1 * 60 * 60 * 60 : Int64).toInt := by decide
  exact ⟨by decide, by decide, by decide, by decide, by decide, by decide, hend⟩

/-! ## The reader sums as a machine does -/

/-- Parts that hold integers are summed exactly when nothing wraps around, and
to what a sum in 64 bits comes to. -/
theorem durationFrom_eq_some_iff {parts : List (List Char)}
    (hparts : parts.map integer? = counts.map some)
    (hroom : HasRoom weight counts.length) :
    durationFrom parts weight.toInt total = some v ↔
      NeverWraps weight total counts ∧ wrappingSum weight total counts = v := by
  induction counts generalizing parts weight total with
  | nil =>
      rw [List.map_nil, List.map_eq_nil_iff] at hparts
      rw [hparts, durationFrom, Option.some.injEq, NeverWraps, wrappingSum,
        true_and]
  | cons n counts ih =>
      obtain ⟨part, parts, rfl⟩ : ∃ part rest, parts = part :: rest := by
        cases parts with
        | nil => cases hparts
        | cons part rest => exact ⟨part, rest, rfl⟩
      obtain ⟨hpart, hrest⟩ := List.cons.inj hparts
      obtain ⟨-, hweight, hroom⟩ := hroom
      have hnext : ∀ sum, durationFrom parts (weight.toInt * 60) sum = some v ↔
          NeverWraps (weight * 60) sum counts ∧
            wrappingSum (weight * 60) sum counts = v := by
        intro sum
        rw [← hweight]
        exact ih hrest hroom
      rw [durationFrom, hpart, Option.bind_eq_bind, Option.bind_some,
        NeverWraps, wrappingSum]
      simp only [Option.bind_eq_some_iff, fit?_eq_some_iff, hnext]
      rw [exists_toInt_eq_iff toInt_mul_eq_iff,
        exists_toInt_eq_iff toInt_add_eq_iff]
      simp only [hweight, true_and, and_assoc]

theorem exists_integer?_of_durationFrom {parts : List (List Char)}
    {weight : Int} (h : durationFrom parts weight total = some v) :
    none ∉ parts.map integer? := by
  induction parts generalizing weight total with
  | nil => exact List.not_mem_nil
  | cons part parts ih =>
      simp only [durationFrom, Option.bind_eq_bind,
        Option.bind_eq_some_iff] at h
      obtain ⟨n, hn, seconds, -, sum, -, hrest⟩ := h
      rw [List.map_cons, List.mem_cons, hn]
      rintro (hnone | hmem)
      · cases hnone
      · exact ih hrest hmem

/-! ## Parts of one sign -/

theorem weightedSum_nonneg {weight : Int} (hweight : 0 ≤ weight)
    (h : ∀ n ∈ counts, 0 ≤ n.toInt) : 0 ≤ weightedSum weight counts := by
  induction counts generalizing weight with
  | nil => exact Int.le_refl 0
  | cons n counts ih =>
      have hproduct := Int.mul_nonneg (h n List.mem_cons_self) hweight
      have hrest : 0 ≤ weightedSum (weight * 60) counts := ih (by omega)
        fun m hm => h m (List.mem_cons_of_mem n hm)
      rw [weightedSum]
      omega

theorem weightedSum_nonpos {weight : Int} (hweight : 0 ≤ weight)
    (h : ∀ n ∈ counts, n.toInt ≤ 0) : weightedSum weight counts ≤ 0 := by
  induction counts generalizing weight with
  | nil => exact Int.le_refl 0
  | cons n counts ih =>
      have hproduct :=
        Int.mul_nonpos_of_nonpos_of_nonneg (h n List.mem_cons_self) hweight
      have hrest : weightedSum (weight * 60) counts ≤ 0 := ih (by omega)
        fun m hm => h m (List.mem_cons_of_mem n hm)
      rw [weightedSum]
      omega

/-- Whether a total and the parts that are added to it have one sign. -/
def HaveOneSign (total : Int) (counts : List Int64) : Prop :=
  (0 ≤ total ∧ ∀ n ∈ counts, 0 ≤ n.toInt) ∨
    (total ≤ 0 ∧ ∀ n ∈ counts, n.toInt ≤ 0)

/-- What is left of parts of one sign, once one is added to the total, has
that sign, and what is added on the way lies between zero and the whole. -/
theorem HaveOneSign.step {n : Int64} (h : HaveOneSign total.toInt (n :: counts))
    (hweight : 0 ≤ weight.toInt)
    (hfits : Fits (total.toInt + weightedSum weight.toInt (n :: counts))) :
    Fits (n.toInt * weight.toInt) ∧
    Fits (total.toInt + n.toInt * weight.toInt) ∧
      HaveOneSign (total.toInt + n.toInt * weight.toInt) counts := by
  rw [weightedSum] at hfits
  rcases h with ⟨htotal, hcounts⟩ | ⟨htotal, hcounts⟩
  · have hlater : ∀ m ∈ counts, 0 ≤ m.toInt :=
      fun m hm => hcounts m (List.mem_cons_of_mem n hm)
    have hproduct := Int.mul_nonneg (hcounts n List.mem_cons_self) hweight
    have hrest : 0 ≤ weightedSum (weight.toInt * 60) counts :=
      weightedSum_nonneg (by omega) hlater
    rw [Fits] at hfits ⊢
    exact ⟨by omega, by rw [Fits]; omega, .inl ⟨by omega, hlater⟩⟩
  · have hlater : ∀ m ∈ counts, m.toInt ≤ 0 :=
      fun m hm => hcounts m (List.mem_cons_of_mem n hm)
    have hproduct :=
      Int.mul_nonpos_of_nonpos_of_nonneg (hcounts n List.mem_cons_self) hweight
    have hrest : weightedSum (weight.toInt * 60) counts ≤ 0 :=
      weightedSum_nonpos (by omega) hlater
    rw [Fits] at hfits ⊢
    exact ⟨by omega, by rw [Fits]; omega, .inr ⟨by omega, hlater⟩⟩

/-- Parts of one sign are summed without wrapping around exactly when the
whole fits. -/
theorem neverWraps_iff_fits (hroom : HasRoom weight counts.length)
    (hsign : HaveOneSign total.toInt counts) :
    NeverWraps weight total counts ↔
      Fits (total.toInt + weightedSum weight.toInt counts) := by
  refine ⟨fun h => h.toInt_wrappingSum ▸ fits_toInt _, fun hfits => ?_⟩
  induction counts generalizing weight total with
  | nil => trivial
  | cons n counts ih =>
      obtain ⟨hpos, hweight, hroom⟩ := hroom
      obtain ⟨hproduct, hsum, hlater⟩ := hsign.step hpos hfits
      have hproduct' := toInt_mul_eq_iff.2 hproduct
      rw [← hproduct'] at hsum hlater
      have hsum' := toInt_add_eq_iff.2 hsum
      rw [← hsum'] at hlater
      refine ⟨hproduct', hsum', hweight, ih hroom hlater ?_⟩
      rw [weightedSum] at hfits
      rwa [hsum', hproduct', hweight, Int.add_assoc]

/-! ## Durations -/

variable {text : String}

/-- The integers in the parts of a text are those in the parts of the trimmed
text. -/
theorem map_durationParts (s : List Char) :
    (durationParts s).map integer? = (s.splitOn ':').map integer? :=
  ignoresBlanks_integer?.map_splitOn_trim (by decide) s

theorem PartsHold.length_le (h : PartsHold ':' text.toList counts)
    (hfew : ¬HasExcessParts text) :
    counts.length ≤ 3 := by
  rw [← h.length_eq]
  exact Nat.le_of_not_lt hfew

theorem PartsHold.hasRoom (h : PartsHold ':' text.toList counts)
    (hfew : ¬HasExcessParts text) :
    HasRoom 1 counts.reverse.length :=
  hasRoom_three.of_le (by rw [List.length_reverse]; exact h.length_le hfew)

theorem readDuration_eq_ok_iff (hfew : ¬HasExcessParts text) :
    readDuration text = .ok v ↔
      durationFrom (durationParts text.toList).reverse 1 0 = some v := by
  have hle : ¬3 < (durationParts text.toList).length := by
    rw [length_durationParts]; exact hfew
  rw [readDuration, if_neg hle]
  cases durationFrom (durationParts text.toList).reverse 1 0 with
  | none => simp
  | some m => simp

/-- Parts that hold integers are a duration exactly when summing them does not
wrap around. -/
theorem PartsHold.readDuration_eq_ok_iff (h : PartsHold ':' text.toList counts)
    (hfew : ¬HasExcessParts text) : readDuration text = .ok v ↔
      NeverWraps 1 0 counts.reverse ∧ wrappingSum 1 0 counts.reverse = v := by
  rw [Value.readDuration_eq_ok_iff hfew]
  refine durationFrom_eq_some_iff ?_ (h.hasRoom hfew)
  rw [List.map_reverse, map_durationParts, partsHold_iff_map.1 h,
    List.map_reverse]

theorem PartsHold.toInt_eq (h : PartsHold ':' text.toList counts)
    (hfew : ¬HasExcessParts text) (hread : readDuration text = .ok v) :
    v.toInt = exactSeconds counts := by
  obtain ⟨hnever, rfl⟩ := (h.readDuration_eq_ok_iff hfew).1 hread
  rw [hnever.toInt_wrappingSum]
  exact Int.zero_add _

/-- Parts of one sign are a duration exactly when their exact sum fits. -/
theorem PartsHold.exists_ok_iff_fits (h : PartsHold ':' text.toList counts)
    (hfew : ¬HasExcessParts text) (hsign : HaveOneSign 0 counts) :
    (∃ v, readDuration text = .ok v) ↔ Fits (exactSeconds counts) := by
  have hroom := h.hasRoom hfew
  have hsign' : HaveOneSign (0 : Int64).toInt counts.reverse := by
    simpa [HaveOneSign] using hsign
  have hiff := neverWraps_iff_fits hroom hsign'
  rw [show (0 : Int64).toInt + weightedSum
    (1 : Int64).toInt counts.reverse = exactSeconds counts
    from Int.zero_add _] at hiff
  rw [← hiff]
  constructor
  · rintro ⟨v, hv⟩
    exact ((h.readDuration_eq_ok_iff hfew).1 hv).1
  · intro hnever
    exact ⟨_, (h.readDuration_eq_ok_iff hfew).2 ⟨hnever, rfl⟩⟩

theorem readDuration_of_bad_part (hfew : ¬HasExcessParts text)
    (h : ∃ part ∈ text.toList.splitOn ':', ∀ n,
      readInteger (String.ofList part) ≠ .ok n) :
    readDuration text = .error (.value (.duration text)) := by
  obtain ⟨part, hmem, hpart⟩ := h
  have hnone : integer? part = none := by
    cases hn : integer? part with
    | none => rfl
    | some n => exact absurd (readInteger_ofList_eq_ok_iff.2 hn) (hpart n)
  rcases readDuration_of_not_hasExcessParts hfew with ⟨v, hv⟩ | hrefused
  · have hsome :=
      exists_integer?_of_durationFrom ((readDuration_eq_ok_iff hfew).1 hv)
    rw [List.map_reverse, List.mem_reverse, map_durationParts] at hsome
    exact absurd (hnone ▸ List.mem_map_of_mem hmem) hsome
  · exact hrefused

/-- A duration with more than three parts is refused for that, whatever they
are; one with a part that holds no integer is refused as a value, with its
text as it was typed. Otherwise it is either refused so or read as the exact
sum of its seconds, minutes and hours, and it is read exactly when no product
and no sum on the way wraps around in 64 bits. If its parts have one sign,
that is when the exact sum fits. -/
theorem readDuration_exact (text : String) :
    let parts := text.toList.splitOn ':'
    (3 < parts.length → readDuration text = .error (.components text)) ∧
    (parts.length ≤ 3 →
      (∃ part ∈ parts, ∀ n, readInteger (String.ofList part) ≠ .ok n) →
      readDuration text = .error (.value (.duration text))) ∧
    ∀ counts, parts.length ≤ 3 → PartsHold ':' text.toList counts →
      ((∃ v, readDuration text = .ok v) ∨
        readDuration text = .error (.value (.duration text))) ∧
      (∀ v, readDuration text = .ok v → v.toInt = exactSeconds counts) ∧
      (∀ v, readDuration text = .ok v ↔
        NeverWraps 1 0 counts.reverse ∧ wrappingSum 1 0 counts.reverse = v) ∧
      ((∀ n ∈ counts, 0 ≤ n.toInt) ∨ (∀ n ∈ counts, n.toInt ≤ 0) →
        (Fits (exactSeconds counts) → ∃ v, readDuration text = .ok v) ∧
        (¬Fits (exactSeconds counts) →
          readDuration text = .error (.value (.duration text)))) := by
  intro parts
  refine ⟨readDuration_of_hasExcessParts,
    fun hfew => readDuration_of_bad_part (Nat.not_lt.2 hfew),
    fun counts hparts hholds => ?_⟩
  have hfew : ¬HasExcessParts text := Nat.not_lt.2 hparts
  have hsettled := readDuration_of_not_hasExcessParts hfew
  refine ⟨hsettled, fun v => hholds.toInt_eq hfew,
    fun v => hholds.readDuration_eq_ok_iff hfew, fun hsign => ?_⟩
  have hone : HaveOneSign 0 counts :=
    hsign.imp (fun h => ⟨Int.le_refl 0, h⟩) fun h => ⟨Int.le_refl 0, h⟩
  have hiff := hholds.exists_ok_iff_fits hfew hone
  exact ⟨hiff.2,
    fun hout => hsettled.resolve_left fun hread => hout (hiff.1 hread)⟩

/-- The longest duration is read, and one second more is refused; so are four
parts, and a part that is no number. -/
theorem readDuration_exact_extremes :
    PartsHold ':' "2562047788015215: 30:07".toList [2562047788015215, 30, 7] ∧
      Fits (exactSeconds [2562047788015215, 30, 7]) ∧
      (∃ v, readDuration "2562047788015215: 30:07" = .ok v) ∧
      PartsHold ':' "2562047788015215: 30:08".toList [2562047788015215, 30, 8] ∧
      ¬Fits (exactSeconds [2562047788015215, 30, 8]) ∧
      readDuration "2562047788015215: 30:08" =
        .error (.value (.duration "2562047788015215: 30:08")) ∧
      readDuration "1:2:3:4" = .error (.components "1:2:3:4") ∧
      readDuration " 1:x" = .error (.value (.duration " 1:x")) := by
  have hlongest : PartsHold ':' "2562047788015215: 30:07".toList
      [2562047788015215, 30, 7] :=
    .cons (by rfl) (.cons (by rfl) (.cons (by rfl) .nil))
  have hlonger : PartsHold ':' "2562047788015215: 30:08".toList
      [2562047788015215, 30, 8] :=
    .cons (by rfl) (.cons (by rfl) (.cons (by rfl) .nil))
  have hfits : Fits (exactSeconds [2562047788015215, 30, 7]) := by decide
  have hout : ¬Fits (exactSeconds [2562047788015215, 30, 8]) := by decide
  obtain ⟨-, -, hthree⟩ := readDuration_exact "2562047788015215: 30:07"
  obtain ⟨-, -, -, hread⟩ := hthree _ (by decide) hlongest
  obtain ⟨-, -, hthree'⟩ := readDuration_exact "2562047788015215: 30:08"
  obtain ⟨-, -, -, hrefused⟩ := hthree' _ (by decide) hlonger
  obtain ⟨hmany, -⟩ := readDuration_exact "1:2:3:4"
  obtain ⟨-, hbad, -⟩ := readDuration_exact " 1:x"
  have hsign : ∀ seconds : Int64, 0 ≤ seconds.toInt →
      ∀ n ∈ [2562047788015215, 30, seconds], 0 ≤ n.toInt := by
    intro seconds hseconds
    simp only [List.forall_mem_cons, List.not_mem_nil, false_implies,
      implies_true, and_true]
    exact ⟨by decide, by decide, hseconds⟩
  refine ⟨hlongest, hfits, (hread (.inl (hsign 7 (by decide)))).1 hfits,
    hlonger, hout,
    (hrefused (.inl (hsign 8 (by decide)))).2 hout, hmany (by decide),
    hbad (by decide) ?_⟩
  exact ⟨['x'], by decide, fun n hn => by cases hn⟩

end Songbook.Value
