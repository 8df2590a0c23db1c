import Connector.Template.Value
import Connector.Text.Split

/-!
# Operators

* `Value.add`, `Value.multiply`, … — arithmetic.  Integers stay integers up to 128 bits; a float
  on either side makes the result a float; a truth value counts as zero or one.
* `Value.slice` — the part of a text or sequence between two places, with a step.
* `Value.contains` — membership.

Division and remainder of integers leave a remainder that is never negative.
-/

namespace Connector.Template.Value

/-- The result of an integer operation. -/
def integer (n : Int) : Except Fault Value :=
  match ofInt? n with
  | some v => pure v
  | Option.none => throw .invalidOperation

/-- An operation on numbers, by what it does to integers and to floats. -/
def arithmetic (ints : Int → Int → Except Fault Value) (floats : Float → Float → Float)
    (a b : Value) : Except Fault Value :=
  match pair? false a b with
  | some (.ints x y) => ints x y
  | some (.floats x y) => pure (.float (.ofFloat (floats x.toFloat y.toFloat)))
  | _ => throw .invalidOperation

/-- A count of repetitions. -/
def count? (v : Value) : Option Nat := do
  let n ← asIndex? v
  if 0 ≤ n then some n.toNat else Option.none

/-- Items repeated. -/
def repeated (n : Nat) (items : List α) : List α := (List.replicate n items).flatten

/-- **Sum**, of two numbers, two texts or two sequences. -/
def add (a b : Value) : Except Fault Value :=
  if holdsItems a && holdsItems b then
    pure (.stream (heldItems a ++ heldItems b) (isSized a && isSized b))
  else
    match pair? false a b with
    | some (.texts x y) => pure (.str (x ++ y) false)
    | _ => arithmetic (fun x y => integer (x + y)) (· + ·) a b

/-- Difference. -/
def subtract (a b : Value) : Except Fault Value :=
  arithmetic (fun x y => integer (x - y)) (· - ·) a b

/-- **Product**, of two numbers or of a text or sequence and how often it is repeated. -/
def multiply (a b : Value) : Except Fault Value :=
  let times := fun (s : Value) (n : Value) =>
    match count? n, s with
    | Option.none, _ => throw Fault.invalidOperation
    | some n, .str s _ => pure (.str (String.ofList (repeated n s.toList)) false)
    | some n, s =>
      if isSized s then pure (.stream (repeated n (heldItems s)) true)
      else throw .invalidOperation
  if (asText? a).isSome then times a b
  else if (asText? b).isSome then times b a
  else if holdsItems a then times a b
  else if holdsItems b then times b a
  else arithmetic (fun x y => integer (x * y)) (· * ·) a b

/-- Quotient, always a float. -/
def divide (a b : Value) : Except Fault Value :=
  match asFloat? false a, asFloat? false b with
  | some x, some y => pure (.float (.ofFloat (x.toFloat / y.toFloat)))
  | _, _ => throw .invalidOperation

/-- The whole part of a float, toward zero. -/
def truncated (x : Float) : Float := if x < 0 then x.ceil else x.floor

/-- The remainder that truncating division of floats leaves, for two finite numbers. -/
def finiteRemainder (a b : Double) : Float :=
  let (m, e) := a.decompose
  let (n, f) := b.decompose
  let low := min e f
  let m := m * Nat.pow 2 (e - low).toNat
  let n := n * Nat.pow 2 (f - low).toNat
  let r := Float.scaleB (Float.ofNat (m % n)) low
  if a.isNegative then -r else r

/-- The remainder of floats, with the sign of the dividend. -/
def floatRemainder (x y : Float) : Float :=
  match Extended.ofFloat x, Extended.ofFloat y with
  | .finite a, .finite b => if b.isZero then 0.0 / 0.0 else finiteRemainder a b
  | .finite _, .infinite _ => x
  | _, _ => 0.0 / 0.0

/-- The whole quotient of floats, rounded so that the remainder is not negative. -/
def floatQuotient (x y : Float) : Float :=
  let q := truncated (x / y)
  if floatRemainder x y < 0 then (if y > 0 then q - 1 else q + 1) else q

/-- **Whole quotient.** -/
def divideFloor (a b : Value) : Except Fault Value :=
  arithmetic (fun x y => if y = 0 then throw .invalidOperation else integer (x / y))
    floatQuotient a b

/-- **Remainder.** -/
def remainder (a b : Value) : Except Fault Value :=
  arithmetic (fun x y => if y = 0 then throw .invalidOperation else integer (x % y))
    floatRemainder a b

/-- An integer power that fits 128 bits.  No base of two or more has a fitting power beyond the
127th. -/
def integerPower (base exponent : Int) : Except Fault Value :=
  if exponent < 0 ∨ Nat.pow 2 32 ≤ exponent then throw .invalidOperation
  else if base.natAbs ≤ 1 then
    integer (if base = -1 then (if exponent % 2 = 0 then 1 else -1)
      else if exponent = 0 then 1 else base)
  else if 127 < exponent then throw .invalidOperation
  else integer (Int.pow base exponent.toNat)

/-- **Power.** -/
def power (a b : Value) : Except Fault Value := arithmetic integerPower Float.pow a b

/-- The negative of a number. -/
def negate : Value → Except Fault Value
  | .int n => if n = Nat.pow 2 127 then pure (.int (-n))
    else if (ofInt? n).isSome then integer (-n) else throw .invalidOperation
  | .float x => pure (.float (.ofFloat (-x.toFloat)))
  | _ => throw .invalidOperation

/-- The texts of two values in a row. -/
def concat (a b : Value) : Value := .str (text a ++ text b) false

/-- **Membership**: of a text in a text, of an item in a sequence, of a key in a map. -/
def contains (container v : Value) : Except Fault Value :=
  match container with
  | .undefined _ => pure (.bool false)
  | .str s _ => pure (.bool (Text.occursIn (text v) s))
  | .seq items => pure (.bool (items.any fun item => same item v))
  | .stream items _ => pure (.bool (items.any fun item => same item v))
  | .group key members => pure (.bool ([key, .seq members].any fun item => same item v))
  | .map entries => pure (.bool (entryUnder? v entries).isSome)
  | .named arguments => pure (.bool (member? v (.named arguments)).isSome)
  | .function _ | .closure _ | .space _ | .loop _ => pure (.bool false)
  | _ => throw .invalidOperation

/-! ## Slices -/

/-- A bound of a slice; the null value leaves it open. -/
def bound? (v : Value) : Except Fault (Option Int) :=
  match v with
  | .none => pure Option.none
  | v =>
    match asIndex? v with
    | some n => if -(Nat.pow 2 63) ≤ n ∧ n < Nat.pow 2 63 then pure (some n) else throw .invalidOperation
    | Option.none => throw .invalidOperation

/-- A bound in a list of `count` items, put between two ends. -/
def clamped (count : Nat) (least most : Int) (n : Int) : Int :=
  let n := if n < 0 then n + count else n
  if n < least then least else if most < n then most else n

/-- Every item whose distance from the first is a multiple of `step + 1`. -/
def everyNth (step skip : Nat) : List α → List α
  | [] => []
  | x :: rest =>
    match skip with
    | 0 => x :: everyNth step step rest
    | skip + 1 => everyNth step skip rest

/-- **The items between two bounds**, forward for a positive step and backward for a negative. -/
def sliceItems (start stop : Option Int) (step : Int) (items : List α) : List α :=
  let count := items.length
  if 0 < step then
    let low := ((start.map (clamped count 0 count)).getD 0).toNat
    let high := ((stop.map (clamped count 0 count)).getD count).toNat
    everyNth (step.toNat - 1) 0 ((items.take high).drop low)
  else
    let last : Int := (count : Int) - 1
    let high := (start.map (clamped count (-1) last)).getD last
    let low := (stop.map (clamped count (-1) last)).getD (-1)
    everyNth (step.natAbs - 1) 0 (((items.take (high + 1).toNat).drop (low + 1).toNat).reverse)

/-- **A slice** of a text, a sequence or no value. -/
def slice (v start stop step : Value) : Except Fault Value := do
  if v.isMissing then throw .undefinedValue
  let start ← bound? start
  let stop ← bound? stop
  let step := (← bound? step).getD 1
  if step = 0 then throw .invalidOperation
  match v with
  | .str s _ => pure (.str (String.ofList (sliceItems start stop step s.toList)) false)
  | .undefined _ | .none => pure (.seq [])
  | .seq items => pure (.stream (sliceItems start stop step items) true)
  | .stream items sized => pure (.stream (sliceItems start stop step items) sized)
  | .group key members => pure (.stream (sliceItems start stop step [key, .seq members]) true)
  | _ => throw .invalidOperation

end Connector.Template.Value
