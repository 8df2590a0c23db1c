import Connector.Json.Basic
import Connector.Text.Split

/-!
# Functions that tasks and conditions call

A function gets the rendered inputs of its caller, in order, and replies with a value; what it
wants to print goes along with the reply.

* `CallError` — why a call fails.
* `Callable` — a function; `argument`, `textArgument` fetch its inputs.
* `Registry` — functions by name.  `Registry.resolve?` tries a dotted name as it stands and then
  its last part.
-/

namespace Connector

/-- **Why a call fails.** -/
inductive CallError where
  | tooFew (needed given : Nat)
  | invalidArgument (index : Nat) (why : String)
  | failed (why : String)
  deriving DecidableEq

/-- The message of a failed call. -/
def CallError.message : CallError → String
  | .tooFew needed given =>
    "expected at least " ++ toString needed ++ " argument(s), got " ++ toString given
  | .invalidArgument index why => "invalid argument " ++ toString index ++ ": " ++ why
  | .failed why => why

/-- **What a function answers.** -/
structure Reply where
  value : Json
  printed : String := ""

/-- **A function.** -/
abbrev Callable := List Json → Except CallError Reply

namespace Callable

/-- The input at an index, which has to be there. -/
def argument (inputs : List Json) (index : Nat) : Except CallError Json :=
  match inputs[index]? with
  | some v => .ok v
  | none => .error (.tooFew (index + 1) inputs.length)

/-- The input at an index, which has to be a string. -/
def textArgument (inputs : List Json) (index : Nat) : Except CallError String :=
  match argument inputs index with
  | .ok (.str s) => .ok s
  | .ok _ => .error (.invalidArgument index "expected a string")
  | .error e => .error e

end Callable

/-- **Functions by name.** -/
abbrev Registry := Record Callable

namespace Registry

/-- What follows the last dot of a name, if there is one. -/
def lastPart? (name : String) : Option String :=
  match (Text.splitOn "." name).reverse with
  | part :: _ :: _ => some part
  | _ => none

/-- **The function of a name**: the one registered under it, else the one registered under its
last dotted part. -/
def resolve? (functions : Registry) (name : String) : Option Callable :=
  match Record.get? name functions with
  | some f => some f
  | none => (lastPart? name).bind fun part => Record.get? part functions

/-- Whether a name leads to a function. -/
def contains (functions : Registry) (name : String) : Bool := (functions.resolve? name).isSome

/-- Register a function, in place of any other one of the same name. -/
def register (name : String) (f : Callable) (functions : Registry) : Registry :=
  Record.insert name f functions

end Registry

end Connector
