import Songbook.Filter.Address
import Songbook.Filter.Comparison
import Songbook.Filter.Fault
import Songbook.Text.Blank

/-!
# Entries

What a form holds at an address: nothing, a branch, or a leaf with its rule
checked against the family of its field and its operands taken as text, in the
shape in which the rule reads them. A criterion on text that was left blank is
nothing that was asked for; it is passed over before its rule is looked at.
-/

namespace Songbook.Filter

/-- A leaf whose operands are not read yet. -/
inductive RawLeaf
  | text (field : TextField) (rule : TextRule) (operand : String)
  | number (field : NumberField) (comparison : NumberComparison String)
  | calendar (field : DateField) (comparison : DayComparison String)
  | recent (field : DateField) (count unit : String) (negated : Bool)
deriving DecidableEq

/-- What a form holds at an address. -/
inductive Entry
  | absent
  | blank
  | branch (combinator : Combinator)
  | leaf (leaf : RawLeaf)
deriving DecidableEq

namespace Form

/-- The operand of a leaf that its rule asks for, which has to be there. -/
def requireOperand (form : Form) (address : String) (index : Nat) :
    Except SchemaFault String :=
  match form.get? (Address.operand address index) with
  | some text => .ok text
  | none => .error (.missingOperand (Address.operand address index))

/-- Both ends of an interval, the lower one looked for first. -/
def requireInterval (form : Form) (address : String) :
    Except SchemaFault (Interval String) := do
  let lo ← form.requireOperand address 0
  let hi ← form.requireOperand address 1
  pure ⟨lo, hi⟩

/-- A comparison of numbers, with the operands that its rule reads. -/
def numberComparison (form : Form) (address : String) :
    NumberRule → Except SchemaFault (NumberComparison String)
  | .atMost => .atMost <$> form.requireOperand address 0
  | .atLeast => .atLeast <$> form.requireOperand address 0
  | .equal => .equal <$> form.requireOperand address 0
  | .notEqual => .notEqual <$> form.requireOperand address 0
  | .inside => .inside <$> form.requireInterval address
  | .outside => .outside <$> form.requireInterval address

/-- A leaf that looks back from the present, with its operands. -/
def recentLeaf (form : Form) (address : String) (field : DateField)
    (negated : Bool) : Except SchemaFault RawLeaf := do
  let count ← form.requireOperand address 0
  let unit ← form.requireOperand address 1
  pure (.recent field count unit negated)

/-- A leaf on a date field, with the operands that its rule reads. -/
def dateLeaf (form : Form) (address : String) (field : DateField) :
    DateRule → Except SchemaFault RawLeaf
  | .last => form.recentLeaf address field false
  | .noLast => form.recentLeaf address field true
  | .before => (.calendar field <| .before ·) <$> form.requireOperand address 0
  | .after => (.calendar field <| .after ·) <$> form.requireOperand address 0
  | .inside => (.calendar field <| .inside ·) <$> form.requireInterval address
  | .outside => (.calendar field <| .outside ·) <$> form.requireInterval address

/-- The rule that a word names, refused if the family of the field has none of
that word. -/
def checkRule {α : Type} (address : String) (kind : FieldKind) (word : String)
    (rule? : Option α) : Except SchemaFault α :=
  match rule? with
  | some rule => .ok rule
  | none => .error (.unknownRule address kind word)

/-- The leaf at an address whose field and rule word are known. -/
def leafAt (form : Form) (address word : String) :
    FieldKind → Except SchemaFault RawLeaf
  | .text field => do
    let rule ← checkRule address (.text field) word (TextRule.ofToken? word)
    pure (.text field rule ((form.get? (Address.operand address 0)).getD ""))
  | .number field => do
    let rule ← checkRule address (.number field) word (NumberRule.ofToken? word)
    let comparison ← form.numberComparison address rule
    pure (.number field comparison)
  | .date field => do
    let rule ← checkRule address (.date field) word (DateRule.ofToken? word)
    form.dateLeaf address field rule

/-- Whether a criterion on this field was left blank, as only one on text can
be. -/
def isBlankAt (form : Form) (address : String) : FieldKind → Bool
  | .text _ =>
    Text.isAllBlank ((form.get? (Address.operand address 0)).getD "").toList
  | .number _ => false
  | .date _ => false

/-- What a form holds at an address. A combinator makes a branch whatever else
the form holds; a field is looked at before its rule and the rule before its
operands. -/
def resolve (form : Form) (address : String) : Except SchemaFault Entry :=
  match form.get? address with
  | none => .ok .absent
  | some token =>
    match Combinator.ofToken? token with
    | some combinator => .ok (.branch combinator)
    | none =>
      match FieldKind.ofToken? token with
      | none => .error (.unknownKind address token)
      | some kind =>
        if form.isBlankAt address kind then .ok .blank
        else match form.get? (Address.rule address) with
          | none => .error (.missingRule address)
          | some word => .leaf <$> form.leafAt address word kind

end Form

end Songbook.Filter
