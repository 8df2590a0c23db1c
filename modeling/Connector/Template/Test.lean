import Connector.Template.Arguments
import Connector.Text.Case

/-!
# Tests

What may follow `is` in an expression.

* `Test.find?` — the test of a name.  It takes the tested value and the arguments.
* `filterNames`, `testNames` — the names that the tests for names know.
-/

namespace Connector.Template

/-- The names of all filters. -/
def filterNames : List String :=
  ["safe", "escape", "e", "lower", "upper", "title", "capitalize", "replace", "length", "count",
    "dictsort", "items", "reverse", "trim", "join", "split", "lines", "default", "d", "round",
    "abs", "int", "float", "attr", "first", "last", "min", "max", "sort", "list", "string",
    "bool", "batch", "slice", "sum", "indent", "select", "reject", "selectattr", "rejectattr",
    "map", "groupby", "unique", "chain", "zip", "pprint", "format"]

/-- The names of all tests. -/
def testNames : List String :=
  ["undefined", "defined", "none", "safe", "escaped", "boolean", "odd", "even", "divisibleby",
    "number", "integer", "int", "float", "string", "sequence", "iterable", "mapping",
    "startingwith", "endingwith", "lower", "upper", "sameas", "eq", "equalto", "==", "ne", "!=",
    "lt", "lessthan", "<", "le", "<=", "gt", "greaterthan", ">", "ge", ">=", "in", "true",
    "false", "filter", "test"]

namespace Test

open Arguments

/-- A test of one value. -/
def unary (test : Value → Bool) : Arguments Bool := do
  let v ← value
  finish
  pure (test v)

/-- A test of two values. -/
def binary (test : Value → Value → Bool) : Arguments Bool := do
  let v ← value
  let w ← value
  finish
  pure (test v w)

/-- A test of two texts. -/
def textual (test : List Char → List Char → Bool) : Arguments Bool := do
  let s ← text
  let t ← text
  finish
  pure (test s.toList t.toList)

/-- A test by the remainder of an integer. -/
def byRemainder (test : Int → Bool) (v : Value) : Bool :=
  match v.asIndex? with
  | some n => test (n % 2)
  | none => false

/-- Whether one number divides another. -/
def divides (v w : Value) : Bool :=
  match Value.pair? true v w with
  | some (.ints a b) => b ≠ 0 && a % b == 0
  | some (.floats a b) => Value.floatRemainder a.toFloat b.toFloat == 0
  | _ => false

/-- Whether a value is a number, which truth values are not. -/
def isNumber : Value → Bool
  | .int _ | .float _ => true
  | _ => false

/-- Whether a value is an integer. -/
def isInteger : Value → Bool
  | .int _ => true
  | _ => false

/-- Whether a value is a float. -/
def isFloat : Value → Bool
  | .float _ => true
  | _ => false

/-- Whether a value is a truth value. -/
def isBoolean : Value → Bool
  | .bool _ => true
  | _ => false

/-- Whether two values are the same thing; two lists or maps never are. -/
def identical (v w : Value) : Bool :=
  match v.kind, w.kind with
  | .sequence, _ | .map, _ | .stream, _ | _, .sequence | _, .map | _, .stream => false
  | k, l =>
    k = l && isBoolean v == isBoolean w && isInteger v == isInteger w && Value.same v w

/-- A test by the order of two values. -/
def ordered (test : Ordering → Bool) : Arguments Bool :=
  binary fun v w => test (Value.compare v w)

/-- Membership in a value, which must not be missing. -/
def membership : Arguments Bool := do
  let v ← value
  let w ← value
  finish
  if w.isMissing then throw .undefinedValue
  match Value.contains w v with
  | .ok b => pure b.truthy
  | .error _ => pure false

/-- A test of a name against a list of names. -/
def known (names : List String) : Arguments Bool := do
  let name ← required onlyTextOf
  finish
  pure (names.contains name)

/-- **The test of a name.** -/
def find? (name : String) : Option (Arguments Bool) :=
  match name with
  | "undefined" => some (unary Value.isUndefined)
  | "defined" => some (unary (!Value.isUndefined ·))
  | "none" => some (unary Value.isNone)
  | "safe" | "escaped" => some (unary fun
      | .str _ safe => safe
      | _ => false)
  | "boolean" => some (unary isBoolean)
  | "odd" => some (unary (byRemainder (· ≠ 0)))
  | "even" => some (unary (byRemainder (· == 0)))
  | "divisibleby" => some (binary divides)
  | "number" => some (unary isNumber)
  | "integer" | "int" => some (unary isInteger)
  | "float" => some (unary isFloat)
  | "string" => some (unary fun v => v.asText?.isSome)
  | "sequence" => some (unary fun v => v.kind = .sequence)
  | "iterable" => some (unary fun v => v.elements?.isSome)
  | "mapping" => some (unary fun v => v.kind = .map)
  | "startingwith" => some (textual fun s t => t.isPrefixOf s)
  | "endingwith" => some (textual fun s t => t.isSuffixOf s)
  | "lower" => some (do
      let s ← text
      finish
      pure (s.toList.all Text.isLower))
  | "upper" => some (do
      let s ← text
      finish
      pure (s.toList.all Text.isUpper))
  | "sameas" => some (binary identical)
  | "eq" | "equalto" | "==" => some (binary Value.same)
  | "ne" | "!=" => some (binary (!Value.same · ·))
  | "lt" | "lessthan" | "<" => some (ordered (·.isLT))
  | "le" | "<=" => some (ordered (·.isLE))
  | "gt" | "greaterthan" | ">" => some (ordered (·.isGT))
  | "ge" | ">=" => some (ordered (·.isGE))
  | "in" => some membership
  | "true" => some (unary fun v => match v with
      | .bool b => b
      | _ => false)
  | "false" => some (unary fun v => match v with
      | .bool b => !b
      | _ => false)
  | "filter" => some (known filterNames)
  | "test" => some (known testNames)
  | _ => none

/-- Apply a test to a value and arguments. -/
def apply (name : String) (arguments : List Value) : Except Fault Bool :=
  match find? name with
  | some test => Arguments.read arguments test
  | none => throw .unknownTest

end Test

end Connector.Template
