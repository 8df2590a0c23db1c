import Connector.Json.Basic
import Connector.Text.Blank
import Connector.Text.Split

/-!
# Paths into a value

A path such as `$.items[*].id` selects values inside a JSON value, step by step.  Reading a path
never fails: what looks like no step selects nothing.

* `Path` — a list of segments, each a name with an optional index.
* `Path.parse` — the segments of a text.
* `Path.follow` — everything that a path reaches, in order, and whether a wildcard spread it.
* `Path.select` — one value: an array of all that was reached as soon as a wildcard was passed,
  else what was reached, or null.
-/

namespace Connector

/-- **The index of a segment**: one element of an array or all children. -/
inductive Path.Index where
  | at (i : Nat)
  | all
  deriving DecidableEq

/-- **A segment**: the member of a name, and then an index.  The empty name stays where it is and
`*` takes all children. -/
structure Path.Segment where
  name : String
  index : Option Path.Index
  deriving DecidableEq

/-- **A path** is followed segment by segment. -/
abbrev Path := List Path.Segment

namespace Path

/-! ## Reading -/

/-- The value of decimal digits. -/
def decimal (digits : List Char) : Nat :=
  digits.foldl (fun n d => 10 * n + (d.toNat - '0'.toNat)) 0

/-- An array index: decimal digits, perhaps behind a plus sign, of a number below `2 ^ 64`. -/
def readIndex? (cs : List Char) : Option Nat :=
  let digits := match cs with
    | '+' :: rest => rest
    | rest => rest
  if digits ≠ [] ∧ digits.all Char.isDigit ∧ decimal digits < Nat.pow 2 64 then some (decimal digits)
  else none

/-- The segment of the part of a path between two dots. -/
def Segment.ofPart (part : List Char) : Segment :=
  let name := part.takeWhile (· ≠ '[')
  match part.dropWhile (· ≠ '[') with
  | _ :: behind =>
    if behind.contains ']' then
      let inner := behind.takeWhile (· ≠ ']')
      ⟨String.ofList name, if inner = ['*'] then some .all else (readIndex? inner).map .at⟩
    else ⟨String.ofList part, none⟩
  | [] => ⟨String.ofList part, none⟩

/-- A text without the dollar sign it may start with. -/
def dropRoot : List Char → List Char
  | '$' :: rest => rest
  | cs => cs

/-- **The segments of a text**: the parts between dots that are not empty. -/
def parse (text : String) : Path :=
  let parts := Text.split ['.'] none (dropRoot (Text.trim text).toList)
  (parts.filter fun part => !part.isEmpty).map Segment.ofPart

/-! ## Following -/

/-- **What was reached**, in order, and whether a wildcard was passed on the way. -/
structure Reached where
  values : List Json
  spread : Bool

/-- The values that the name of a segment leads to. -/
def Segment.named (s : Segment) (v : Json) : List Json :=
  if s.name = "" then [v]
  else if s.name = "*" then v.children
  else (v.member? s.name).toList

/-- The values that the index of a segment leads to. -/
def Segment.indexed (s : Segment) (v : Json) : List Json :=
  match s.index with
  | none => [v]
  | some (.at i) => (v.item? i).toList
  | some .all => v.children

/-- **Follow one segment** from every value reached so far. -/
def Reached.step (r : Reached) (s : Segment) : Reached :=
  let fields := r.values.flatMap s.named
  ⟨fields.flatMap s.indexed,
    r.spread || (s.name = "*" && !r.values.isEmpty) || (s.index = some .all && !fields.isEmpty)⟩

/-- **Everything that a path reaches.** -/
def follow (path : Path) (root : Json) : Reached := path.foldl Reached.step ⟨[root], false⟩

/-- What was reached as one value. -/
def Reached.value (r : Reached) : Json :=
  if r.spread then .arr r.values
  else
    match r.values with
    | [] => .null
    | [v] => v
    | vs => .arr vs

/-- **The value that a path selects.** -/
def select (path : Path) (root : Json) : Json := (path.follow root).value

end Path

end Connector
