import Songbook.Filter.Entry
import Songbook.Filter.Node
import Songbook.Value.Date
import Songbook.Value.Duration

/-!
# Trees from forms

Reads the filter that a form holds at an address. A fault in the grammar ends
it; operands that do not read are collected, in the order of their addresses,
and their leaves still count as criteria. Children that hold no criterion are
dropped, and a branch without any holds none itself, so a tree that comes out
has no empty branch. Branches may lie in branches 64 deep; what lies deeper is
a fault before it is looked at.
-/

namespace Songbook.Filter

/-- What reading a filter gives: the tree of all that could be read, the
number of criteria, those that could not be read included, and the operands
that did not read. -/
structure Built where
  node : Option Node
  count : Nat
  errors : List OperandError

namespace Built

/-- Nothing that was asked for. -/
def void : Built :=
  ⟨none, 0, []⟩

/-- One criterion. -/
def leaf (test : Leaf) : Built :=
  ⟨some (.leaf test), 1, []⟩

/-- One criterion that could not be read. -/
def rejected (errors : List OperandError) : Built :=
  ⟨none, 1, errors⟩

/-- Whether nothing was asked for, not even something that does not read. -/
def isEmpty (built : Built) : Bool :=
  built.count == 0 && built.errors.isEmpty

/-- Whether all operands were read. -/
def isValid (built : Built) : Bool :=
  built.errors.isEmpty

/-- A branch over what its children gave; those without a criterion are
dropped. -/
def branch (combinator : Combinator) (children : List Built) : Built :=
  let kept := children.filter fun child => child.count != 0
  let nodes := kept.filterMap (·.node)
  { node := if nodes.isEmpty then none else some (.branch combinator nodes)
    count := kept.foldr (fun child count => child.count + count) 0
    errors := kept.flatMap (·.errors) }

end Built

/-- Reads one operand of a number leaf. A duration with too many parts is a
fault. -/
def readNumber (field : NumberField) (address : String) (index : Nat)
    (text : String) : Except SchemaFault (Except OperandError Int64) :=
  let located (e : ValueError) : Except OperandError Int64 :=
    .error ⟨Address.operand address index, e⟩
  match field with
  | .time =>
    match Value.readDuration text with
    | .ok seconds => .ok (.ok seconds)
    | .error (.value e) => .ok (located e)
    | .error (.components text) => .error (.durationComponents text)
  | .track | .playCount =>
    match Value.readInteger text with
    | .ok n => .ok (.ok n)
    | .error e => .ok (located e)

/-- The error of what failed. -/
def errorOf? {ε α : Type} : Except ε α → Option ε
  | .ok _ => none
  | .error e => some e

/-- Reads the operands of a leaf. A number leaf reports each operand that does
not read, a leaf on calendar days only the first. Where a count does not read
its unit is not looked at. -/
def buildLeaf (today : Date) (address : String) :
    RawLeaf → Except SchemaFault Built
  | .text field rule operand => .ok (.leaf (.text field rule operand))
  | .number field comparison => do
    let read ← comparison.traverse (readNumber field address)
    match read.traverse fun _ operand => operand with
    | .ok numbers => pure (.leaf (.number field numbers))
    | .error _ => pure (.rejected (read.operands.filterMap errorOf?))
  | .calendar field comparison =>
    let read := comparison.traverse fun index text =>
      (Value.readDate today text).mapError
        (OperandError.mk (Address.operand address index))
    match read with
    | .ok dates => .ok (.leaf (.calendar field dates))
    | .error e => .ok (.rejected [e])
  | .recent field count unit negated =>
    match Value.readInteger count with
    | .error e => .ok (.rejected [⟨Address.operand address 0, e⟩])
    | .ok n =>
      match TimeUnit.ofName? unit with
      | some unit => .ok (.leaf (.recent field n unit negated))
      | none => .error (.unknownUnit address unit)

/-- How many branches may lie around a leaf. -/
def maxDepth : Nat := 64

/-- Reads the filter at an address, with room for as many levels below the
address, itself included. -/
def buildWithin (form : Form) (today : Date) :
    Nat → String → Except SchemaFault Built
  | 0, address => .error (.tooDeep address)
  | room + 1, address => do
    match ← form.resolve address with
    | .absent => pure .void
    | .blank => pure .void
    | .leaf raw => buildLeaf today address raw
    | .branch combinator =>
      let children ← (form.children address).mapM (buildWithin form today room)
      pure (.branch combinator children)

/-- Reads the filter that a form holds at an address. -/
def build (form : Form) (address : String) (today : Date) :
    Except SchemaFault Built :=
  buildWithin form today (maxDepth + 1) address

end Songbook.Filter
