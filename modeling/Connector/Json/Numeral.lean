import Connector.Json.Basic

/-!
# Numbers as they are written

A number in a JSON text is read in two steps: its spelling first, its value second.

* `Numeral` — the spelling: sign, whole digits, fraction digits, exponent.
* `Numeral.read?` — the longest spelling at the start of a text.
* `Numeral.value?` — the value.  Spellings without fraction and exponent that fit a word are
  integers; every other number is a double, and one beyond the largest double has no value.

A double is computed as a 64-bit significand scaled by a power of ten.  The significand takes
digits while it fits its word; whole digits after that count as powers of ten and fraction digits
after that are dropped.  Scaling rounds once when the power of ten is within the table of exact
literals, which is why the value of a long numeral need not be the nearest double.
-/

namespace Connector

/-- **The spelling of a number.** -/
structure Numeral where
  negative : Bool
  whole : List Char
  fraction : Option (List Char)
  /-- The sign (true for minus) and the digits of the exponent. -/
  exponent : Option (Bool × List Char)

namespace Numeral

/-- The value of a digit. -/
def digitValue (c : Char) : Nat := c.toNat - '0'.toNat

/-- The value of a string of digits. -/
def digitsValue (cs : List Char) : Nat := cs.foldl (fun n c => 10 * n + digitValue c) 0

/-- The digits at the start of a text, and what follows them. -/
def digits (cs : List Char) : List Char × List Char :=
  (cs.takeWhile Char.isDigit, cs.dropWhile Char.isDigit)

/-- Whole digits: a zero stands alone. -/
def readWhole? (cs : List Char) : Option (List Char × List Char) :=
  match digits cs with
  | ([], _) => none
  | (['0'], rest) => some (['0'], rest)
  | ('0' :: _, _) => none
  | (ds, rest) => some (ds, rest)

/-- The fraction, if there is one; a point without digits is refused. -/
def readFraction? : List Char → Option (Option (List Char) × List Char)
  | '.' :: cs =>
    match digits cs with
    | ([], _) => none
    | (ds, rest) => some (some ds, rest)
  | cs => some (none, cs)

/-- The digits of an exponent after its sign. -/
def readExponentDigits? (negative : Bool) (cs : List Char) :
    Option (Option (Bool × List Char) × List Char) :=
  match digits cs with
  | ([], _) => none
  | (ds, rest) => some (some (negative, ds), rest)

/-- The exponent, if there is one; a mark without digits is refused. -/
def readExponent? : List Char → Option (Option (Bool × List Char) × List Char)
  | c :: cs =>
    if c = 'e' ∨ c = 'E' then
      match cs with
      | '-' :: rest => readExponentDigits? true rest
      | '+' :: rest => readExponentDigits? false rest
      | _ => readExponentDigits? false cs
    else some (none, c :: cs)
  | [] => some (none, [])

/-- **The spelling at the start of a text**, after its sign. -/
def readUnsigned? (negative : Bool) (cs : List Char) : Option (Numeral × List Char) := do
  let (whole, cs) ← readWhole? cs
  let (fraction, cs) ← readFraction? cs
  let (exponent, cs) ← readExponent? cs
  some (⟨negative, whole, fraction, exponent⟩, cs)

/-- The spelling of a number at the start of a text. -/
def read? : List Char → Option (Numeral × List Char)
  | '-' :: cs => readUnsigned? true cs
  | cs => readUnsigned? false cs

/-! ## Values -/

/-- Digits that still fit the 64-bit significand, and those that do not. -/
def accumulate (significand : Nat) : List Char → Nat × List Char
  | [] => (significand, [])
  | c :: cs =>
    let next := 10 * significand + digitValue c
    if next < Nat.pow 2 64 then accumulate next cs else (significand, c :: cs)

/-- `10 ^ n` as a double, for `n` up to 308. -/
def powerOfTen (n : Nat) : Float := Float.ofScientific 1 false n

/-- Scale down by powers of ten that may lie below the table; one step of `10 ^ 308` at a time,
until nothing is left. -/
def scaleDown (x : Float) (places : Nat) : Nat → Float
  | 0 => x
  | fuel + 1 =>
    if places ≤ 308 then x / powerOfTen places
    else if x == 0 then x
    else scaleDown (x / powerOfTen 308) (places - 308) fuel

/-- **The significand times a power of ten**; nothing when it is beyond the largest double. -/
def scale? (significand : Nat) (exponent : Int) : Option Float :=
  let x := (UInt64.ofNat significand).toFloat
  if exponent < 0 then some (scaleDown x (-exponent).toNat 4)
  else if exponent ≤ 308 then
    let y := x * powerOfTen exponent.toNat
    if y.isInf then none else some y
  else if significand = 0 then some x
  else none

/-- The magnitude of a numeral as a double. -/
def magnitude? (n : Numeral) : Option Float :=
  let (significand, spilled) := accumulate 0 n.whole
  let places : Int := spilled.length
  let (significand, dropped) := accumulate significand (n.fraction.getD [])
  let places := places - ((n.fraction.getD []).length - dropped.length : Nat)
  match n.exponent with
  | none => scale? significand places
  | some (down, ds) =>
    let e := digitsValue ds
    if e < Nat.pow 2 31 then scale? significand (if down then places - e else places + e)
    else if significand ≠ 0 ∧ !down then none
    else some 0

/-- The double of a numeral. -/
def double? (n : Numeral) : Option Number := do
  let x ← n.magnitude?
  let d ← Double.ofFloat? (if n.negative then -x else x)
  some (.double d)

/-- **The value of a numeral.**  The minus sign alone turns a zero into a double. -/
def value? (n : Numeral) : Option Number :=
  match n.fraction, n.exponent with
  | none, none =>
    let v := digitsValue n.whole
    if n.negative ∧ v = 0 then n.double?
    else
      match WideInt.ofInt? (if n.negative then -(v : Int) else v) with
      | some w => some (.int w)
      | none => n.double?
  | _, _ => n.double?

end Numeral

end Connector
