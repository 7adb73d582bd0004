import Songbook.Proofs.Meaning

/-!
# What a song lacks fails what is asked of it

A tree looks at its leaves alone, and a negated branch turns around what a
leaf under it counts for. So what a leaf counts for is said by the number of
negated branches that it lies under: under an even number of them a leaf that
comes to pass can only help the tree to pass, and under an odd number it can
only stand in its way. `Node.holds_of_leaves` says so of any two songs and all
leaves.

A song that was never queued has no instant to hold against a rule, and fails
every one, those that read as negations included. So next to the same song
with an instant it is the song that passes fewer leaves, and where all leaves
that ask for the instant lie under an even number of negated branches it
passes fewer trees; where all of them lie under an odd number it passes more.
-/

namespace Songbook.Filter

/-! ## Leaves under negations -/

/-- Whether a leaf stands in a tree under some number of negated branches. -/
inductive Node.Bears (test : Leaf) : Nat → Node → Prop
  | leaf : Bears test 0 (.leaf test)
  | branch {negations : Nat} {combinator : Combinator} {children : List Node}
    {child : Node} (hchild : child ∈ children)
    (h : Bears test negations child) :
    Bears test (if combinator.isNegated then negations + 1 else negations)
      (.branch combinator children)

/-- The date that a leaf asks for, if it asks for one. -/
def Leaf.dateField? : Leaf → Option DateField
  | .text .. => none
  | .number .. => none
  | .calendar field _ => some field
  | .recent field .. => some field

/-- Whether all leaves of a tree that ask for a date lie under an even number
of negated branches, or, for `1`, under an odd one. -/
def Node.AsksUnder (field : DateField) (parity : Nat) (node : Node) : Prop :=
  ∀ test negations, node.Bears test negations → test.dateField? = some field →
    negations % 2 = parity

variable {now : Instant} {song other : Song} {test : Leaf} {negations : Nat}
  {node : Node} {combinator : Combinator} {children : List Node}

theorem Node.bears_leaf_iff {found : Leaf} :
    (Node.leaf found).Bears test negations ↔ test = found ∧ negations = 0 := by
  constructor
  · rintro ⟨⟩
    exact ⟨rfl, rfl⟩
  · rintro ⟨rfl, rfl⟩
    exact .leaf

theorem Node.bears_branch_iff :
    (Node.branch combinator children).Bears test negations ↔
      ∃ child ∈ children, ∃ fewer, child.Bears test fewer ∧
        negations = if combinator.isNegated then fewer + 1 else fewer := by
  constructor
  · rintro (_ | ⟨hchild, h⟩)
    exact ⟨_, hchild, _, h, rfl⟩
  · rintro ⟨child, hchild, fewer, h, rfl⟩
    exact .branch hchild h

/-- A tree that one song passes is passed by another as well if that passes
every leaf under an even number of negated branches that the first passes, and
none under an odd number that the first does not. -/
theorem Node.holds_of_leaves
    (heven : ∀ test negations, node.Bears test negations → negations % 2 = 0 →
      test.Holds now song → test.Holds now other)
    (hodd : ∀ test negations, node.Bears test negations → negations % 2 = 1 →
      test.Holds now other → test.Holds now song)
    (h : node.Holds now song) : node.Holds now other := by
  -- under a negated branch the two songs change places, so neither is fixed
  -- in the induction
  induction node generalizing song other with
  | leaf test =>
      rw [Node.Holds] at h ⊢
      exact heven test 0 .leaf rfl h
  | branch combinator children ih =>
      have hsame (hnegated : combinator.isNegated = false) :
          ∀ child ∈ children, child.Holds now song → child.Holds now other := by
        intro child hchild
        have hbranch {test : Leaf} {negations : Nat}
            (h : child.Bears test negations) :
            (Node.branch combinator children).Bears test negations :=
          bears_branch_iff.2 ⟨child, hchild, negations, h,
            by rw [hnegated]; rfl⟩
        refine ih child hchild (fun test negations h => ?_)
          fun test negations h => ?_
        · exact heven test negations (hbranch h)
        · exact hodd test negations (hbranch h)
      have hturned (hnegated : combinator.isNegated = true) :
          ∀ child ∈ children, child.Holds now other → child.Holds now song := by
        intro child hchild
        have hbranch {test : Leaf} {negations : Nat}
            (h : child.Bears test negations) :
            (Node.branch combinator children).Bears test (negations + 1) :=
          bears_branch_iff.2 ⟨child, hchild, negations, h,
            by rw [hnegated]; rfl⟩
        refine ih child hchild (fun test negations h heven' => ?_)
          fun test negations h hodd' => ?_
        · exact hodd test (negations + 1) (hbranch h) (by omega)
        · exact heven test (negations + 1) (hbranch h) (by omega)
      cases combinator with
      | and =>
          rw [Node.Holds] at h ⊢
          intro child hchild
          exact hsame rfl child hchild (h child hchild)
      | or =>
          rw [Node.Holds] at h ⊢
          obtain ⟨child, hchild, hholds⟩ := h
          exact ⟨child, hchild, hsame rfl child hchild hholds⟩
      | nand =>
          rw [Node.Holds] at h ⊢
          intro hall
          exact h fun child hchild =>
            hturned rfl child hchild (hall child hchild)
      | nor =>
          rw [Node.Holds] at h ⊢
          rintro ⟨child, hchild, hholds⟩
          exact h ⟨child, hchild, hturned rfl child hchild hholds⟩

/-! ## A song that was never queued -/

theorem Leaf.not_holds_of_dateField?_eq {field : DateField}
    (hfield : test.dateField? = some field)
    (hinstant : song.instant field = none) : ¬test.Holds now song := by
  obtain ⟨hcalendar, hrecent⟩ := Leaf.not_holds_of_instant_eq_none now hinstant
  cases test with
  | text | number => cases hfield
  | calendar field comparison =>
      cases hfield
      exact hcalendar comparison
  | recent field count unit negated =>
      cases hfield
      exact hrecent count unit negated

/-- A leaf that does not ask when a song was last queued takes no notice of
it. -/
theorem Leaf.holds_lastQueued_iff (hfield : test.dateField? ≠ some .lastQueued)
    (queued queued' : Option Instant) :
    test.Holds now { song with lastQueued := queued } ↔
      test.Holds now { song with lastQueued := queued' } := by
  have hinstant {field : DateField}
      (h : some field ≠ some DateField.lastQueued) :
      ({ song with lastQueued := queued } : Song).instant field =
        ({ song with lastQueued := queued' } : Song).instant field := by
    cases field with
    | dateAdded => rfl
    | lastQueued => exact absurd rfl h
  cases test with
  | text field rule value => cases field <;> exact Iff.rfl
  | number field comparison => cases field <;> exact Iff.rfl
  | calendar field comparison => rw [Leaf.Holds, Leaf.Holds, hinstant hfield]
  | recent field count unit negated =>
      cases negated with
      | false => rw [Leaf.Holds, Leaf.Holds, hinstant hfield]
      | true => rw [Leaf.Holds, Leaf.Holds, hinstant hfield]

theorem Leaf.holds_of_never_queued
    (h : test.Holds now { song with lastQueued := none })
    (queued : Option Instant) :
    test.Holds now { song with lastQueued := queued } := by
  by_cases hfield : test.dateField? = some .lastQueued
  · exact absurd h (Leaf.not_holds_of_dateField?_eq hfield rfl)
  · exact (Leaf.holds_lastQueued_iff hfield _ _).1 h

theorem Node.AsksUnder.dateField?_ne {field : DateField} {parity : Nat}
    (hasks : node.AsksUnder field parity) (hbears : node.Bears test negations)
    (hparity : negations % 2 ≠ parity) : test.dateField? ≠ some field := by
  intro hfield
  exact hparity (hasks test negations hbears hfield)

/-- Where all leaves that ask when a song was last queued lie under an even
number of negated branches, a song that passes without having been queued
passes whenever it was queued; where all lie under an odd number, a song that
passes having been queued passes without. The leaves themselves fail on the
song that was never queued, every one. -/
theorem never_queued_fails (node : Node) (now : Instant) (song : Song)
    (t : Instant) :
    (node.AsksUnder .lastQueued 0 →
      (node.compile now).holds { song with lastQueued := none } = true →
      (node.compile now).holds { song with lastQueued := some t } = true) ∧
    (node.AsksUnder .lastQueued 1 →
      (node.compile now).holds { song with lastQueued := some t } = true →
      (node.compile now).holds { song with lastQueued := none } = true) ∧
    ∀ test : Leaf, test.dateField? = some .lastQueued →
      (test.compile now).holds { song with lastQueued := none } = false := by
  rw [Node.holds_compile, Node.holds_compile]
  refine ⟨fun hasks => ?_, fun hasks => ?_, fun test hfield => ?_⟩
  · refine Node.holds_of_leaves
      (fun _ _ _ _ h => Leaf.holds_of_never_queued h _) ?_
    intro test negations hbears hodd
    have hfield : test.dateField? ≠ some .lastQueued :=
      hasks.dateField?_ne hbears (by omega)
    exact (Leaf.holds_lastQueued_iff hfield _ _).1
  · refine Node.holds_of_leaves ?_ (fun _ _ _ _ h =>
      Leaf.holds_of_never_queued h _)
    intro test negations hbears heven
    have hfield : test.dateField? ≠ some .lastQueued :=
      hasks.dateField?_ne hbears (by omega)
    exact (Leaf.holds_lastQueued_iff hfield _ _).1
  · rw [← Bool.not_eq_true, Leaf.holds_compile]
    exact Leaf.not_holds_of_dateField?_eq hfield rfl

/-- A song that was queued in the last day fails the rule that asks for one
that was not, and a song that was never queued fails it too, so both pass the
tree with one negation around the rule. In the tree with two, both pass for
the title. -/
theorem never_queued_fails_sample :
    let rule : Leaf := .recent .lastQueued 1 .day true
    let under : Node := .branch .nor [.leaf rule]
    let twice : Node :=
      .branch .nand [under, .leaf (.text .title ⟨.contains, false⟩ "blue")]
    let song : Song := ⟨⟨0⟩, "Lovesick", "", "", 2, 60, 0, .epoch, none, true⟩
    under.AsksUnder .lastQueued 1 ∧ twice.AsksUnder .lastQueued 0 ∧
      (under.compile .epoch).holds
        { song with lastQueued := some .epoch } = true ∧
      (under.compile .epoch).holds { song with lastQueued := none } = true ∧
      (twice.compile .epoch).holds { song with lastQueued := none } = true ∧
      (twice.compile .epoch).holds
        { song with lastQueued := some .epoch } = true := by
  intro rule under twice song
  have hunder {test : Leaf} {negations : Nat} (h : under.Bears test negations) :
      negations = 1 := by
    obtain ⟨child, hchild, fewer, hbears, rfl⟩ := Node.bears_branch_iff.1 h
    rw [List.mem_singleton.1 hchild, Node.bears_leaf_iff] at hbears
    rw [hbears.2]
    rfl
  have hodd : under.AsksUnder .lastQueued 1 := by
    intro test negations h _
    rw [hunder h]
  have heven : twice.AsksUnder .lastQueued 0 := by
    intro test negations h hfield
    obtain ⟨child, hchild, fewer, hbears, rfl⟩ := Node.bears_branch_iff.1 h
    simp only [List.mem_cons, List.not_mem_nil, or_false] at hchild
    rcases hchild with rfl | rfl
    · rw [hunder hbears]
      rfl
    · rw [(Node.bears_leaf_iff.1 hbears).1] at hfield
      cases hfield
  have hqueued : (under.compile .epoch).holds
      { song with lastQueued := some .epoch } = true := by
    decide +kernel
  have hnever : (twice.compile .epoch).holds
      { song with lastQueued := none } = true := by
    decide +kernel
  obtain ⟨-, hunqueued, -⟩ := never_queued_fails under .epoch song .epoch
  obtain ⟨hrequeued, -, -⟩ := never_queued_fails twice .epoch song .epoch
  exact ⟨hodd, heven, hqueued, hunqueued hodd hqueued, hnever,
    hrequeued heven hnever⟩

end Songbook.Filter
