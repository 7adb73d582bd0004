import Songbook.Calendar.Date
import Songbook.Filter.Field
import Songbook.Text.Occurrence

/-!
# Comparisons

A rule together with its operands. The operands may be of any type: a form
gives them as text, and reading them keeps the shape. An interval includes
both of its ends and is taken as given, so one whose ends are the wrong way
round holds nothing, and everything lies outside it.
-/

namespace Songbook.Filter

/-- Holds a text against another as a test asks, every character as it is. -/
def TextTest.holds : TextTest → List Char → List Char → Bool
  | contains, s, needle => Text.occursIn needle s
  | startsWith, s, needle => needle.isPrefixOf s
  | endsWith, s, needle => needle.isSuffixOf s
  | equals, s, needle => s == needle

/-- Everything from `lo` to `hi`, both included. -/
structure Interval (α : Type) where
  lo : α
  hi : α
deriving DecidableEq

namespace Interval

variable {α : Type}

/-- Whether a value lies in an interval. -/
def contains [LE α] [DecidableLE α] (interval : Interval α) (value : α) :
    Bool :=
  decide (interval.lo ≤ value) && decide (value ≤ interval.hi)

/-- What an explanation says of an interval. -/
def phrase (render : α → String) (interval : Interval α) : String :=
  render interval.lo ++ ".." ++ render interval.hi

/-- Converts both ends, the lower one first. -/
def traverse {m : Type → Type} [Monad m] {β : Type} (f : Nat → α → m β)
    (interval : Interval α) : m (Interval β) := do
  let lo ← f 0 interval.lo
  let hi ← f 1 interval.hi
  pure ⟨lo, hi⟩

end Interval

/-- A test on a number. -/
inductive NumberComparison (α : Type)
  | atMost (bound : α)
  | atLeast (bound : α)
  | equal (value : α)
  | notEqual (value : α)
  | inside (interval : Interval α)
  | outside (interval : Interval α)
deriving DecidableEq

namespace NumberComparison

variable {α : Type}

/-- Whether a value passes a comparison. -/
def holds [LE α] [DecidableLE α] [DecidableEq α] : NumberComparison α → α → Bool
  | atMost bound, value => decide (value ≤ bound)
  | atLeast bound, value => decide (bound ≤ value)
  | equal other, value => decide (value = other)
  | notEqual other, value => !decide (value = other)
  | inside interval, value => interval.contains value
  | outside interval, value => !interval.contains value

/-- What an explanation says of a comparison. -/
def phrase (render : α → String) : NumberComparison α → String
  | atMost bound => "<= " ++ render bound
  | atLeast bound => ">= " ++ render bound
  | equal value => "= " ++ render value
  | notEqual value => "<> " ++ render value
  | inside interval => "inside " ++ interval.phrase render
  | outside interval => "outside " ++ interval.phrase render

/-- The operands of a comparison, in order. -/
def operands : NumberComparison α → List α
  | atMost bound => [bound]
  | atLeast bound => [bound]
  | equal value => [value]
  | notEqual value => [value]
  | inside interval => [interval.lo, interval.hi]
  | outside interval => [interval.lo, interval.hi]

/-- Converts the operands in order; `f` is told the place of each. -/
def traverse {m : Type → Type} [Monad m] {β : Type} (f : Nat → α → m β) :
    NumberComparison α → m (NumberComparison β)
  | atMost bound => atMost <$> f 0 bound
  | atLeast bound => atLeast <$> f 0 bound
  | equal value => equal <$> f 0 value
  | notEqual value => notEqual <$> f 0 value
  | inside interval => inside <$> interval.traverse f
  | outside interval => outside <$> interval.traverse f

end NumberComparison

/-- A test on the day of an instant. -/
inductive DayComparison (α : Type)
  | before (bound : α)
  | after (bound : α)
  | inside (interval : Interval α)
  | outside (interval : Interval α)
deriving DecidableEq

namespace DayComparison

variable {α : Type}

/-- Whether a value passes a comparison. -/
def holds [LE α] [LT α] [DecidableLE α] [DecidableLT α] :
    DayComparison α → α → Bool
  | before bound, value => decide (value < bound)
  | after bound, value => decide (bound < value)
  | inside interval, value => interval.contains value
  | outside interval, value => !interval.contains value

/-- What an explanation says of a comparison. -/
def phrase (render : α → String) : DayComparison α → String
  | before bound => "before " ++ render bound
  | after bound => "after " ++ render bound
  | inside interval => "inside " ++ interval.phrase render
  | outside interval => "outside " ++ interval.phrase render

/-- Converts the operands in order; `f` is told the place of each. -/
def traverse {m : Type → Type} [Monad m] {β : Type} (f : Nat → α → m β) :
    DayComparison α → m (DayComparison β)
  | before bound => before <$> f 0 bound
  | after bound => after <$> f 0 bound
  | inside interval => inside <$> interval.traverse f
  | outside interval => outside <$> interval.traverse f

end DayComparison

end Songbook.Filter
