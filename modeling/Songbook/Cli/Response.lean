import Songbook.Catalog.Error
import Songbook.Text.Quoted

/-!
# Responses

What a command says and how it ends. A command that fails says why behind all
else that it says; of an error that arises outside only the beginning is known
here. Operands that did not read end a command with the same code as words
that ask for nothing.

A response is what the command itself says. Lines of a log, which may come
among them where a program keeps one, are no part of it, and that a line
cannot be written is not told: a response is taken to reach whoever asked.
-/

namespace Songbook.Cli

/-- Why a command fails. -/
inductive Failure
  | catalog (error : CatalogError)
  /-- A criterion without an equals sign. -/
  | badCriterion (text : String)
  | badId (text : String)
  | badDuration (text : String)
  /-- Operands of a filter that did not read. -/
  | rejected (errors : List Filter.OperandError)
deriving DecidableEq

namespace Failure

/-- The line on one operand that did not read. -/
def rejectionLine (error : Filter.OperandError) : String :=
  "Invalid value: " ++ error.message ++ "\n"

/-- Why a command fails, in words. -/
def text : Failure → String
  | catalog error =>
    "Error: " ++ error.message ++ if error.isExternal then "" else "\n"
  | badCriterion text =>
    "Error: invalid criterion " ++ Text.quoted text ++ " (expected key=value)\n"
  | badId text => "Error: invalid song id " ++ Text.quoted text ++ "\n"
  | badDuration text => "Error: invalid duration " ++ Text.quoted text ++ "\n"
  | rejected errors => String.join (errors.map rejectionLine)

/-- The exit code of a failure. -/
def code : Failure → Nat
  | rejected _ => 2
  | catalog _ | badCriterion _ | badId _ | badDuration _ => 1

end Failure

/-- What a command says and how it ends. -/
structure Response where
  /-- What it prints. -/
  out : String := ""
  /-- What it says beside that. -/
  note : String := ""
  failure : Option Failure := none
deriving DecidableEq

namespace Response

/-- All that a command says beside what it prints, the failure last and no
line of a log. -/
def err (response : Response) : String :=
  response.note ++ (response.failure.map Failure.text).getD ""

/-- The exit code of a command, 0 when it did not fail. -/
def code (response : Response) : Nat :=
  (response.failure.map Failure.code).getD 0

end Response

end Songbook.Cli
