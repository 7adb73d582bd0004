import Songbook.Filter.Field
import Songbook.Text.Quoted
import Songbook.Value.Integer

/-!
# What can be wrong with a filter

Two kinds of trouble are kept apart. A fault is a form that does not follow
the grammar of addresses, which is the fault of whatever made the form, and it
ends the reading at once. An operand that does not read is a slip of the
person who typed it; such errors are collected, each with the key it was read
from, so that all can be shown together.
-/

namespace Songbook.Filter

/-- A form that does not follow the grammar of addresses. -/
inductive SchemaFault
  | unknownKind (address token : String)
  | missingRule (address : String)
  | unknownRule (address : String) (kind : FieldKind) (rule : String)
  | missingOperand (key : String)
  | unknownUnit (address unit : String)
  | durationComponents (text : String)
  | tooDeep (address : String)
deriving DecidableEq

/-- What is said of a fault. -/
def SchemaFault.message : SchemaFault → String
  | unknownKind address token =>
    "unknown field kind " ++ Text.quoted token ++ " at '" ++ address ++ "'"
  | missingRule address => "missing rule for '" ++ address ++ "'"
  | unknownRule address kind rule =>
    "rule " ++ Text.quoted rule ++ " is not valid for " ++ kind.token ++
      " at '" ++ address ++ "'"
  | missingOperand key => "missing operand '" ++ key ++ "'"
  | unknownUnit address unit =>
    "unknown time unit " ++ Text.quoted unit ++ " at '" ++ address ++ "'"
  | durationComponents text =>
    "duration " ++ Text.quoted text ++ " has more than three components"
  | tooDeep address => "filter nested too deeply at '" ++ address ++ "'"

/-- An operand that does not read, with the key it was read from. -/
structure OperandError where
  address : String
  error : ValueError
deriving DecidableEq

/-- What is said about an operand that does not read. -/
def OperandError.message (e : OperandError) : String :=
  e.address ++ ": " ++ e.error.message

end Songbook.Filter
