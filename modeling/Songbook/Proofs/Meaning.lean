import Songbook.Filter.Predicate

/-!
# What a tree means

A tree is read as a truth table. A branch looks at its children and at nothing
else, a text leaf looks at one field with the case of both sides taken off, a
number leaf at one number, and a leaf on a date at one instant, which the song
may not have. The meaning below is said without a predicate: it knows no
needle, no cutoff in advance and no negation that stands by itself.

A compiled tree decides that meaning. The two put negation in different
places: the meaning has it in two combinators and in four text rules, the
predicate has one construct for all of them, put around what has been compiled
already. Both leave dates alone: an instant that is not there fails every test
of it, so a rule on a date and its opposite are not each other's negation, and
the predicate never makes one out of the other.
-/

namespace Songbook.Filter

/-! ## The meaning of a leaf -/

/-- How a text has to stand to another. -/
def TextTest.Relates : TextTest → List Char → List Char → Prop
  | contains, s, needle => needle <:+: s
  | startsWith, s, needle => needle <+: s
  | endsWith, s, needle => needle <:+ s
  | equals, s, needle => s = needle

/-- A rule asks for its test, or for the test to fail. -/
def TextRule.Relates (rule : TextRule) (s needle : List Char) : Prop :=
  if rule.negated then ¬rule.test.Relates s needle
  else rule.test.Relates s needle

/-- The numbers that pass a comparison; both ends of an interval belong to it.
-/
def NumberComparison.Allows : NumberComparison Int64 → Int → Prop
  | atMost bound, n => n ≤ bound.toInt
  | atLeast bound, n => bound.toInt ≤ n
  | equal value, n => n = value.toInt
  | notEqual value, n => n ≠ value.toInt
  | inside interval, n => interval.lo.toInt ≤ n ∧ n ≤ interval.hi.toInt
  | outside interval, n => ¬(interval.lo.toInt ≤ n ∧ n ≤ interval.hi.toInt)

/-- The days that pass a comparison, counted from 1970-01-01. -/
def DayComparison.Allows : DayComparison Date → Int → Prop
  | before bound, day => day < bound.number
  | after bound, day => bound.number < day
  | inside interval, day => interval.lo.number ≤ day ∧ day ≤ interval.hi.number
  | outside interval, day =>
      ¬(interval.lo.number ≤ day ∧ day ≤ interval.hi.number)

/-- What a leaf asks of a song. -/
def Leaf.Holds (now : Instant) (song : Song) : Leaf → Prop
  | text field rule value =>
    rule.Relates (Text.lower (song.text field).toList) (Text.lower value.toList)
  | number field comparison => comparison.Allows (song.number field).toInt
  | calendar field comparison =>
    ∃ t, song.instant field = some t ∧ comparison.Allows t.date.number
  | recent field count unit false =>
    ∃ t, song.instant field = some t ∧ now.windowStart count unit ≤ t
  | recent field count unit true =>
    ∃ t, song.instant field = some t ∧ t < now.windowStart count unit

/-! ## The meaning of a tree -/

/-- What a tree asks of a song. -/
def Node.Holds (now : Instant) (song : Song) : Node → Prop
  | leaf test => test.Holds now song
  | branch .and children => ∀ child ∈ children, child.Holds now song
  | branch .or children => ∃ child, ∃ _ : child ∈ children, child.Holds now song
  | branch .nand children => ¬∀ child ∈ children, child.Holds now song
  | branch .nor children =>
      ¬∃ child, ∃ _ : child ∈ children, child.Holds now song

/-- To show something of every tree it is enough to show it of leaves, and of
a branch when it holds of each of its children. -/
@[induction_eliminator]
theorem Node.induction {motive : Node → Prop}
    (leaf : ∀ test, motive (.leaf test))
    (branch : ∀ combinator children, (∀ child ∈ children, motive child) →
      motive (.branch combinator children)) (node : Node) : motive node := by
  match node with
  | .leaf test => exact leaf test
  | .branch combinator children =>
      exact branch combinator children fun child _ =>
        Node.induction leaf branch child

/-! ## Leaves, compiled -/

theorem TextTest.holds_iff_relates {test : TextTest} {s needle : List Char} :
    test.holds s needle = true ↔ test.Relates s needle := by
  cases test with
  | contains => exact Text.occursIn_iff_isInfix
  | startsWith => exact List.isPrefixOf_iff_prefix
  | endsWith => exact List.isSuffixOf_iff_suffix
  | equals => exact beq_iff_eq

theorem Interval.contains_iff {α : Type} [LE α] [DecidableLE α]
    {interval : Interval α} {v : α} :
    interval.contains v = true ↔ interval.lo ≤ v ∧ v ≤ interval.hi := by
  rw [contains, Bool.and_eq_true, decide_eq_true_eq, decide_eq_true_eq]

theorem NumberComparison.holds_iff_allows {comparison : NumberComparison Int64}
    {n : Int64} :
    comparison.holds n = true ↔ comparison.Allows n.toInt := by
  have hin : ∀ interval : Interval Int64, interval.contains n = true ↔
      interval.lo.toInt ≤ n.toInt ∧ n.toInt ≤ interval.hi.toInt :=
        fun interval => by
    rw [Interval.contains_iff, Int64.le_iff_toInt_le, Int64.le_iff_toInt_le]
  cases comparison with
  | atMost bound => rw [holds, decide_eq_true_eq, Int64.le_iff_toInt_le, Allows]
  | atLeast bound =>
      rw [holds, decide_eq_true_eq, Int64.le_iff_toInt_le, Allows]
  | equal value => rw [holds, decide_eq_true_eq, ← Int64.toInt_inj, Allows]
  | notEqual value =>
      rw [holds, Bool.not_eq_true', decide_eq_false_iff_not, ← Int64.toInt_inj,
        Allows]
  | inside interval => exact hin interval
  | outside interval =>
      rw [holds, Bool.not_eq_true', ← Bool.not_eq_true, hin, Allows]

theorem DayComparison.holds_iff_allows {comparison : DayComparison Date}
    {d : Date} :
    comparison.holds d = true ↔ comparison.Allows d.number := by
  cases comparison with
  | before bound => exact decide_eq_true_iff
  | after bound => exact decide_eq_true_iff
  | inside interval => exact Interval.contains_iff
  | outside interval =>
      rw [holds, Bool.not_eq_true', ← Bool.not_eq_true, Interval.contains_iff]
      exact Iff.rfl

theorem Predicate.holds_negateIf {negated : Bool} {predicate : Predicate}
    {song : Song} :
    (predicate.negateIf negated).holds song = true ↔
      if negated then ¬predicate.holds song = true
      else predicate.holds song = true := by
  cases negated with
  | false => exact Iff.rfl
  | true =>
      rw [negateIf, if_pos rfl, Predicate.holds, Bool.not_eq_true', if_pos rfl,
      Bool.not_eq_true]

theorem Predicate.holds_ofNeedle {field : TextField} {test : TextTest}
    {needle : String} {song : Song} :
    (ofNeedle field test needle).holds song =
      test.holds (Text.lower (song.text field).toList)
        (Text.lower needle.toList) := by
  rw [ofNeedle, Predicate.holds, Text.lowercase, String.toList_ofList]

theorem Leaf.holds_compile {test : Leaf} {now : Instant} {song : Song} :
    (test.compile now).holds song = true ↔ test.Holds now song := by
  cases test with
  | text field rule value =>
      rw [compile, Predicate.holds_negateIf, Predicate.holds_ofNeedle,
        TextTest.holds_iff_relates]
      exact Iff.rfl
  | number field comparison => exact NumberComparison.holds_iff_allows
  | calendar field comparison =>
      rw [compile, Predicate.holds, Option.any_eq_true]
      exact exists_congr fun t => and_congr_right fun _ =>
        DayComparison.holds_iff_allows
  | recent field count unit negated =>
      rw [compile, Predicate.holds, Option.any_eq_true]
      cases negated with
      | false =>
          refine exists_congr fun t => and_congr_right fun _ => ?_
          rw [Bool.not_false, beq_true, decide_eq_true_eq]
      | true =>
          refine exists_congr fun t => and_congr_right fun _ => ?_
          rw [Bool.not_true, beq_false, Bool.not_eq_true',
            decide_eq_false_iff_not, Instant.not_le_iff_lt]

/-! ## Branches, compiled -/

theorem Predicate.holds_all_map {α : Type} {f : α → Predicate} {l : List α}
    {song : Song} :
    (all (l.map f)).holds song = true ↔ ∀ a ∈ l, (f a).holds song = true := by
  rw [Predicate.holds, holdsAll_eq_all, List.all_map, List.all_eq_true]
  exact Iff.rfl

theorem Predicate.holds_any_map {α : Type} {f : α → Predicate} {l : List α}
    {song : Song} :
    (any (l.map f)).holds song = true ↔ ∃ a ∈ l, (f a).holds song = true := by
  rw [Predicate.holds, holdsAny_eq_any, List.any_map, List.any_eq_true]
  exact Iff.rfl

/-- Every tree, compiled, asks of a song what the tree does. The induction is
on the tree; what a branch adds is where the negation stands. -/
theorem Node.holds_compile {node : Node} {now : Instant} {song : Song} :
    (node.compile now).holds song = true ↔ node.Holds now song := by
  induction node with
  | leaf test => rw [compile, Node.Holds]; exact Leaf.holds_compile
  | branch combinator children ih =>
      have hall : (Predicate.all (compileAll now children)).holds song = true ↔
          ∀ child ∈ children, child.Holds now song := by
        rw [compileAll_eq_map, Predicate.holds_all_map]
        exact forall₂_congr ih
      have hany : (Predicate.any (compileAll now children)).holds song = true ↔
          ∃ child, ∃ _ : child ∈ children, child.Holds now song := by
        rw [compileAll_eq_map, Predicate.holds_any_map]
        simp only [exists_prop]
        exact exists_congr fun child => and_congr_right fun h => ih child h
      rw [compile, Combinator.join, Predicate.holds_negateIf]
      cases combinator with
      | and => rw [Node.Holds, ← hall]; exact Iff.rfl
      | or => rw [Node.Holds, ← hany]; exact Iff.rfl
      | nand => rw [Node.Holds, ← hall]; exact Iff.rfl
      | nor => rw [Node.Holds, ← hany]; exact Iff.rfl

instance (node : Node) (now : Instant) (song : Song) :
    Decidable (node.Holds now song) :=
  decidable_of_iff _ Node.holds_compile

/-- A leaf on a date asks for the instant first, so no rule passes where there
is none. -/
theorem Leaf.not_holds_of_instant_eq_none (now : Instant) {song : Song}
    {field : DateField} (h : song.instant field = none) :
    (∀ comparison, ¬(Leaf.calendar field comparison).Holds now song) ∧
      ∀ count unit negated,
        ¬(Leaf.recent field count unit negated).Holds now song := by
  have hne : ∀ t, song.instant field ≠ some t := fun t => by rw [h]; simp
  refine ⟨?_, ?_⟩
  · rintro comparison ⟨t, ht, -⟩
    exact hne t ht
  · rintro count unit (_ | _) ⟨t, ht, -⟩
    · exact hne t ht
    · exact hne t ht

/-- A predicate that was compiled from a tree decides the truth table of the
tree. A rule on text and its negation, and the two sides of an interval of
numbers, exclude each other on every song and leave none out; every test of a
date that a song does not have fails. -/
theorem Node.compile_preserves_meaning (node : Node) (now : Instant)
    (song : Song) :
    ((node.compile now).holds song = true ↔ node.Holds now song) ∧
    (∀ field test value,
      ((leaf (.text field ⟨test, true⟩ value)).compile now).holds song =
        !((leaf (.text field ⟨test, false⟩ value)).compile now).holds song) ∧
    (∀ field interval,
      ((leaf (.number field (.outside interval))).compile now).holds song =
        !((leaf (.number field (.inside interval))).compile now).holds song) ∧
    ∀ field, song.instant field = none →
      (∀ comparison,
        ((leaf (.calendar field comparison)).compile now).holds song = false) ∧
      ∀ count unit negated,
        ((leaf (.recent field count unit negated)).compile now).holds
          song = false := by
  refine ⟨holds_compile, fun field test value => ?_, fun field interval => ?_,
    fun field h => ?_⟩
  · rw [Bool.eq_iff_iff, Bool.not_eq_true', ← Bool.not_eq_true, holds_compile,
      holds_compile, Node.Holds, Node.Holds]
    exact Iff.rfl
  · rw [Bool.eq_iff_iff, Bool.not_eq_true', ← Bool.not_eq_true, holds_compile,
      holds_compile, Node.Holds, Node.Holds]
    exact Iff.rfl
  · obtain ⟨hday, hrecent⟩ := Leaf.not_holds_of_instant_eq_none now h
    refine ⟨fun comparison => ?_, fun count unit negated => ?_⟩
    · rw [← Bool.not_eq_true, holds_compile, Node.Holds]
      exact hday comparison
    · rw [← Bool.not_eq_true, holds_compile, Node.Holds]
      exact hrecent count unit negated

end Songbook.Filter
