import Connector.Decimal.Shortest

/-!
# Results of float arithmetic

Arithmetic on doubles may leave the finite ones.  A result is a finite double, an infinity or no
number at all; only the first kind has a place in JSON.

* `Extended` — such a result.
* `Extended.ofFloat`, `Extended.toFloat` — to and from the machine's floats.
* `Extended.text` — its text in a layout.
* `Decimal.readFloat?` — the number that a decimal text denotes.
-/

namespace Connector

/-- **A double, an infinity or no number.** -/
inductive Extended where
  | finite (d : Double)
  | infinite (negative : Bool)
  | notANumber
  deriving DecidableEq

namespace Extended

/-- The result of a computation on floats. -/
def ofFloat (x : Float) : Extended :=
  match Double.ofFloat? x with
  | some d => .finite d
  | none => if x.isNaN then .notANumber else .infinite (x < 0)

/-- The float to compute with. -/
def toFloat : Extended → Float
  | .finite d => d.toFloat
  | .infinite false => 1.0 / 0.0
  | .infinite true => -1.0 / 0.0
  | .notANumber => 0.0 / 0.0

/-- The float of an integer, rounded to the nearest. -/
def ofInt (n : Int) : Extended := ofFloat (Float.ofInt n)

/-- The text of a result. -/
def text (layout : Decimal.Layout) : Extended → String
  | .finite d => d.text layout
  | .infinite false => "inf"
  | .infinite true => "-inf"
  | .notANumber => "NaN"

end Extended

namespace Decimal

/-- The number of digits at the start of a text, their value and the rest. -/
def leadingDigits (value count : Nat) : List Char → Nat × Nat × List Char
  | [] => (value, count, [])
  | c :: rest =>
    if c.isDigit then leadingDigits (10 * value + (c.toNat - '0'.toNat)) (count + 1) rest
    else (value, count, c :: rest)

/-- The exponent at the end of a decimal text; none counts as zero. -/
def readExponent? : List Char → Option Int
  | [] => some 0
  | c :: rest =>
    if c = 'e' ∨ c = 'E' then
      let (negative, digits) := match rest with
        | '-' :: ds => (true, ds)
        | '+' :: ds => (false, ds)
        | ds => (false, ds)
      match leadingDigits 0 0 digits with
      | (_, 0, _) => none
      | (n, _, []) => some (if negative then -(n : Int) else n)
      | _ => none
    else none

/-- The magnitude of a decimal text: digits with an optional point among or beside them, and an
optional exponent.  Exponents far outside the range are cut to one that rounds the same way. -/
def readMagnitude? (cs : List Char) : Option Float := do
  let (whole, wholeCount, rest) := leadingDigits 0 0 cs
  let (value, places, count, rest) := match rest with
    | '.' :: rest =>
      let (value, n, rest) := leadingDigits whole 0 rest
      (value, n, wholeCount + n, rest)
    | rest => (whole, 0, wholeCount, rest)
  if count = 0 then none
  else
    let e := (← readExponent? rest) - places
    let bound : Int := 400 + count
    let e := if e > bound then bound else if e < -bound then -bound else e
    some (if e < 0 then Float.ofScientific value true (-e).toNat
      else Float.ofScientific value false e.toNat)

/-- **The number of a decimal text** with an optional sign; infinity and the missing number have
names. -/
def readFloat? (s : String) : Option Float :=
  let (negative, cs) := match s.toList with
    | '-' :: rest => (true, rest)
    | '+' :: rest => (false, rest)
    | cs => (false, cs)
  let name := String.ofList (cs.map Char.toLower)
  let magnitude :=
    if name = "inf" ∨ name = "infinity" then some (1.0 / 0.0)
    else if name = "nan" then some (0.0 / 0.0)
    else readMagnitude? cs
  magnitude.map fun x => if negative then -x else x

end Decimal

end Connector
