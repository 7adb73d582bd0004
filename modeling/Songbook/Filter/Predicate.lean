import Songbook.Filter.Node
import Songbook.Song.Basic
import Songbook.Text.Lowercase

/-!
# Predicates

A filter made ready to run over many songs: needles are lower-cased, relative
windows are turned into the instant where they begin, and negation is a
construct of its own, so that testing a song takes no further decisions. A
test of a date never passes on a song without that date, not even a test that
reads as a negation; only a negation around it can make up for that.
-/

namespace Songbook.Filter

/-- A test on a song. -/
inductive Predicate
  | all (parts : List Predicate)
  | any (parts : List Predicate)
  | not (part : Predicate)
  /-- Holds the lower-cased field against a needle that is lower-cased
  already. -/
  | text (field : TextField) (test : TextTest) (needle : String)
  | number (field : NumberField) (comparison : NumberComparison Int64)
  /-- Compares the UTC day of an instant. -/
  | day (field : DateField) (comparison : DayComparison Date)
  /-- Whether an instant lies at or after the cutoff, or, if not `within`,
  before it. -/
  | recent (field : DateField) (cutoff : Instant) (within : Bool)

namespace Predicate

/-- The test of a text field against a needle of any case. -/
def ofNeedle (field : TextField) (test : TextTest) (needle : String) :
    Predicate :=
  text field test (Text.lowercase needle)

/-- The opposite of a test, if asked for. -/
def negateIf (negated : Bool) (predicate : Predicate) : Predicate :=
  if negated then not predicate else predicate

mutual

/-- Whether a song passes a test. -/
def holds (song : Song) : Predicate → Bool
  | all parts => holdsAll song parts
  | any parts => holdsAny song parts
  | not part => !holds song part
  | text field test needle =>
    test.holds (Text.lower (song.text field).toList) needle.toList
  | number field comparison => comparison.holds (song.number field)
  | day field comparison =>
    (song.instant field).any fun t => comparison.holds t.date
  | recent field cutoff within =>
    (song.instant field).any fun t => decide (cutoff ≤ t) == within

/-- Whether a song passes every one of several tests. -/
def holdsAll (song : Song) : List Predicate → Bool
  | [] => true
  | part :: parts => holds song part && holdsAll song parts

/-- Whether a song passes some one of several tests. -/
def holdsAny (song : Song) : List Predicate → Bool
  | [] => false
  | part :: parts => holds song part || holdsAny song parts

end

theorem holdsAll_eq_all (song : Song) (parts : List Predicate) :
    holdsAll song parts = parts.all (holds song) := by
  induction parts with
  | nil => rfl
  | cons part parts ih => rw [holdsAll, List.all_cons, ih]

theorem holdsAny_eq_any (song : Song) (parts : List Predicate) :
    holdsAny song parts = parts.any (holds song) := by
  induction parts with
  | nil => rfl
  | cons part parts ih => rw [holdsAny, List.any_cons, ih]

end Predicate

/-- The test that a leaf asks for, at the instant when the filter runs. -/
def Leaf.compile (now : Instant) : Leaf → Predicate
  | .text field rule value =>
    (Predicate.ofNeedle field rule.test value).negateIf rule.negated
  | .number field comparison => .number field comparison
  | .calendar field comparison => .day field comparison
  | .recent field count unit negated =>
    .recent field (now.windowStart count unit) !negated

/-- Several tests joined as a combinator joins them. -/
def Combinator.join (combinator : Combinator) (parts : List Predicate) :
    Predicate :=
  (if combinator.isDisjunction then Predicate.any parts
    else Predicate.all parts).negateIf combinator.isNegated

namespace Node

mutual

/-- The test that a tree asks for, at the instant when the filter runs. -/
def compile (now : Instant) : Node → Predicate
  | leaf test => test.compile now
  | branch combinator children => combinator.join (compileAll now children)

/-- The tests that trees ask for, in order. -/
def compileAll (now : Instant) : List Node → List Predicate
  | [] => []
  | node :: nodes => compile now node :: compileAll now nodes

end

theorem compileAll_eq_map (now : Instant) (nodes : List Node) :
    compileAll now nodes = nodes.map (compile now) := by
  induction nodes with
  | nil => rfl
  | cons node nodes ih => rw [compileAll, List.map_cons, ih]

end Node

end Songbook.Filter
