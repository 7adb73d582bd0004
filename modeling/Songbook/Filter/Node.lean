import Songbook.Calendar.Window
import Songbook.Filter.Comparison
import Songbook.Text.Quoted

/-!
# Filter trees

A filter is a tree: branches join their children by a combinator, leaves test
one field. The operands of a leaf are already read, and a leaf of one family
cannot carry a rule of another, so every tree has a meaning. The text of a
tree is what an explained filter prints.
-/

namespace Songbook.Filter

/-- A test of one field. -/
inductive Leaf
  | text (field : TextField) (rule : TextRule) (value : String)
  | number (field : NumberField) (comparison : NumberComparison Int64)
  | calendar (field : DateField) (comparison : DayComparison Date)
  /-- Whether the instant lies in the last `count` units, or, negated, before
  them. -/
  | recent (field : DateField) (count : Int64) (unit : TimeUnit)
    (negated : Bool)
deriving DecidableEq

/-- A filter. -/
inductive Node
  | leaf (test : Leaf)
  | branch (combinator : Combinator) (children : List Node)

namespace Leaf

/-- What an explanation says of a leaf. -/
def phrase : Leaf → String
  | text field rule value =>
    field.token ++ " " ++ rule.phrase ++ " " ++ Text.quoted value
  | number field comparison =>
    field.token ++ " " ++ comparison.phrase fun n => Text.decimal n.toInt
  | calendar field comparison =>
    field.token ++ " " ++ comparison.phrase Date.text
  | recent field count unit negated =>
    field.token ++ (if negated then " not within last " else " within last ") ++
      Text.decimal count.toInt ++ " " ++ unit.name

end Leaf

namespace Node

mutual

/-- How many leaves a tree has. -/
def criterionCount : Node → Nat
  | leaf _ => 1
  | branch _ children => criterionCountAll children

/-- How many leaves trees have together. -/
def criterionCountAll : List Node → Nat
  | [] => 0
  | node :: nodes => node.criterionCount + criterionCountAll nodes

end

/-- What stands between the children of a branch. -/
def joiner (combinator : Combinator) : String :=
  if combinator.isDisjunction then " or " else " and "

/-- What stands before the children of a branch. -/
def opening (combinator : Combinator) : String :=
  if combinator.isNegated then "not (" else "("

mutual

/-- What an explanation says of a tree. -/
def phrase : Node → String
  | leaf test => test.phrase
  | branch combinator children =>
    opening combinator ++ phraseAll (joiner combinator) children ++ ")"

/-- What an explanation says of the children of a branch. -/
def phraseAll (between : String) : List Node → String
  | [] => ""
  | node :: [] => node.phrase
  | node :: nodes => node.phrase ++ between ++ phraseAll between nodes

end

end Node

end Songbook.Filter
