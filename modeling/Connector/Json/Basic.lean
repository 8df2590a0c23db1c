import Connector.Decimal.Double
import Connector.Record

/-!
# JSON values

The values that flow through a connector.  Numbers come in two kinds that are never mixed:
machine integers and finite doubles.

* `WideInt` — an integer that fits a signed or an unsigned 64-bit word.
* `Json` — a value; the members of an object are a `Record`.
* `Json.truthy` — which values count as true in a condition.
* `Json.item?`, `Json.member?`, `Json.children` — one step down into a value.
-/

namespace Connector

/-- **A machine integer**: from `-(2 ^ 63)`, the least signed 64-bit word, to the greatest unsigned
one below `2 ^ 64`. -/
structure WideInt where
  val : Int
  lower : -9223372036854775808 ≤ val := by omega
  upper : val < 18446744073709551616 := by omega
  deriving DecidableEq

/-- The machine integers; other integers have none. -/
def WideInt.ofInt? (n : Int) : Option WideInt :=
  if h : -9223372036854775808 ≤ n ∧ n < 18446744073709551616 then some ⟨n, h.1, h.2⟩ else none

/-- A JSON number. -/
inductive Number where
  | int (n : WideInt)
  | double (d : Double)
  deriving DecidableEq

/-- The integers that fit a word stay integers; the others become doubles. -/
def Number.ofInt (n : Int) : Number :=
  match WideInt.ofInt? n with
  | some w => .int w
  | none => .double ((Double.ofFloat? (Float.ofInt n)).getD Double.zero)

/-- Both zeros of doubles count as zero. -/
def Number.isZero : Number → Bool
  | .int n => n.val == 0
  | .double d => d.isZero

/-- **A JSON value.** -/
inductive Json where
  | null
  | bool (b : Bool)
  | num (n : Number)
  | str (s : String)
  | arr (items : List Json)
  | obj (fields : List (String × Json))
  deriving Inhabited

/-- **A context** binds the variables that templates read. -/
abbrev Context := Record Json

namespace Json

/-- An integer as a value. -/
def ofInt (n : Int) : Json := .num (.ofInt n)

/-- A count as a value. -/
def ofNat (n : Nat) : Json := .num (.ofInt n)

/-- A float as a value; what is not finite has no JSON number and becomes null. -/
def ofFloat (x : Float) : Json :=
  match Double.ofFloat? x with
  | some d => .num (.double d)
  | none => .null

/-- **Truth of a value**: null, false, zeros and everything empty are falsy. -/
def truthy : Json → Bool
  | .null => false
  | .bool b => b
  | .num n => !n.isZero
  | .str s => !s.isEmpty
  | .arr items => !items.isEmpty
  | .obj fields => !fields.isEmpty

/-- The member of an object under a name. -/
def member? (name : String) : Json → Option Json
  | .obj fields => Record.get? name fields
  | _ => none

/-- The element of an array at an index. -/
def item? (index : Nat) : Json → Option Json
  | .arr items => items[index]?
  | _ => none

/-- The elements of an array, or the members of an object in name order. -/
def children : Json → List Json
  | .arr items => items
  | .obj fields => Record.values fields
  | _ => []

/-- The text of a string value. -/
def str? : Json → Option String
  | .str s => some s
  | _ => none

end Json

end Connector
