import Connector.Decimal.Double

/-!
# The shortest decimal that reads back

A finite double `v` is the nearest double to every real number in an interval around it.  The
text of `v` uses the fewest digits that name a point of that interval, and of two such points
the nearer one, so that reading the text gives `v` again.

* `Interval` — the interval, with its three numbers on one common denominator.
* `shortest` — the digits and the decimal exponent: the grids of 1, 2, … 17 digits are tried in
  turn, and on each grid only the two neighbours of `v` can be hits.
* `Layout` — how digits are written: where positional notation ends and how an exponent looks.
* `Double.text` — the text of a double in a layout.

All arithmetic is on natural numbers, so nothing is rounded on the way.
-/

namespace Connector

namespace Decimal

/-- **The numbers that round to a double**, all over one denominator: the ends of the interval
and the double itself.  The ends belong to it when the significand is even. -/
structure Interval where
  low : Nat
  mid : Nat
  high : Nat
  denominator : Nat
  closed : Bool

/-- The interval of `m · 2 ^ q`, where the gap below may be half as wide as the gap above. -/
def Interval.ofBinary (m : Nat) (q : Int) (narrow : Bool) : Interval :=
  let scale := if q ≥ 0 then Nat.pow 2 q.toNat else 1
  let denominator := if q ≥ 0 then 4 else 4 * Nat.pow 2 (-q).toNat
  let below := if narrow then 4 * m - 1 else 4 * m - 2
  ⟨below * scale, 4 * m * scale, (4 * m + 2) * scale, denominator, m % 2 == 0⟩

/-- Whether `n / d` lies in the interval. -/
def Interval.contains (i : Interval) (n d : Nat) : Bool :=
  let point := n * i.denominator
  if i.closed then i.low * d ≤ point && point ≤ i.high * d
  else i.low * d < point && point < i.high * d

/-- The number of decimal digits of `n`; zero has none. -/
def digitCount (n : Nat) : Nat := if n = 0 then 0 else (Nat.toDigits 10 n).length

/-- The least `e` with `n / d < 10 ^ e`, for positive `n`: an estimate from the digit counts,
corrected by one. -/
def magnitude (n d : Nat) : Int :=
  let e : Int := (digitCount n : Int) - digitCount d
  if e ≥ 0 then
    if n < d * Nat.pow 10 e.toNat then e else e + 1
  else
    if n * Nat.pow 10 (-e).toNat < d then e else e + 1

/-- `n / d` in units of `10 ^ e`, as a fraction. -/
def scaled (n d : Nat) (e : Int) : Nat × Nat :=
  if e ≥ 0 then (n, d * Nat.pow 10 e.toNat) else (n * Nat.pow 10 (-e).toNat, d)

/-- The value of `k · 10 ^ e` as a fraction. -/
def point (k : Nat) (e : Int) : Nat × Nat :=
  if e ≥ 0 then (k * Nat.pow 10 e.toNat, 1) else (k, Nat.pow 10 (-e).toNat)

/-- **One grid.**  The value lies between two neighbours of the grid with step `10 ^ e`; the
nearer one inside the interval is taken, an exact tie goes to the even neighbour. -/
def hit? (i : Interval) (e : Int) : Option Nat :=
  let (n, d) := scaled i.mid i.denominator e
  let lower := n / d
  let upper := lower + 1
  let inside := fun k => let (a, b) := point k e; i.contains a b
  let rest := n - lower * d
  let preferLower := 2 * rest < d || (2 * rest == d && lower % 2 == 0)
  match inside lower && lower != 0, inside upper with
  | true, true => some (if preferLower then lower else upper)
  | true, false => some lower
  | false, true => some upper
  | false, false => none

/-- The first grid with a hit, counted down by the digits that are still allowed. -/
def search (i : Interval) (top : Int) (digits : Nat) : Nat → Nat × Int
  | 0 => let e := top - digits; ((hit? i e).getD 0, e)
  | fuel + 1 =>
    let e := top - digits
    match hit? i e with
    | some k => (k, e)
    | none => search i top (digits + 1) fuel

/-- Drop the zeros at the end of `k`, raising the exponent for each. -/
def trimZeros (k : Nat) (e : Int) : Nat → Nat × Int
  | 0 => (k, e)
  | fuel + 1 => if k ≠ 0 ∧ k % 10 = 0 then trimZeros (k / 10) (e + 1) fuel else (k, e)

/-- **The shortest digits** of a positive `m · 2 ^ q`, as an integer without zeros at its end and
a power of ten.  Seventeen digits always suffice. -/
def shortest (m : Nat) (q : Int) (narrow : Bool) : Nat × Int :=
  let i := Interval.ofBinary m q narrow
  let (k, e) := search i (magnitude i.mid i.denominator) 1 17
  trimZeros k e 20

/-- **How digits are laid out.**  With the first digit standing for `10 ^ x`, notation is
positional exactly when `least ≤ x < bound`; `none` leaves that side open. -/
structure Layout where
  least : Option Int
  bound : Option Int
  /-- Written between the exponent mark and a non-negative exponent. -/
  exponentSign : String
  /-- Whether a whole number keeps the fraction `.0`. -/
  keepsPoint : Bool

/-- Whether a number whose first digit stands for `10 ^ x` is written without exponent. -/
def Layout.positional (l : Layout) (x : Int) : Bool :=
  l.least.all (· ≤ x) && l.bound.all (x < ·)

/-- The decimal digits of a natural number. -/
def digitsText (n : Nat) : List Char := Nat.toDigits 10 n

/-- Digits with the point put `e` places from the right end (to the left of it when negative). -/
def positionalText (keepsPoint : Bool) (digits : List Char) (e : Int) : List Char :=
  let whole := if keepsPoint then ['.', '0'] else []
  if e ≥ 0 then digits ++ List.replicate e.toNat '0' ++ whole
  else
    let places := (-e).toNat
    if digits.length > places then
      digits.take (digits.length - places) ++ '.' :: digits.drop (digits.length - places)
    else ['0', '.'] ++ List.replicate (places - digits.length) '0' ++ digits

/-- One digit, the point and the others if there are others, and the exponent. -/
def exponentText (sign : String) (digits : List Char) (x : Int) : List Char :=
  let head := match digits with
    | d :: r@(_ :: _) => d :: '.' :: r
    | _ => digits
  let exponent := if x ≥ 0 then sign.toList ++ digitsText x.toNat else '-' :: digitsText (-x).toNat
  head ++ 'e' :: exponent

/-- The text of the positive number `k · 10 ^ e`. -/
def Layout.text (l : Layout) (k : Nat) (e : Int) : List Char :=
  let digits := digitsText k
  let x := e + digits.length - 1
  if l.positional x then positionalText l.keepsPoint digits e
  else exponentText l.exponentSign digits x

end Decimal

namespace Double

open Decimal

/-- **The text of a double.**  A zero keeps its sign and counts as having its only digit at
`10 ^ 0`. -/
def text (layout : Layout) (d : Double) : String :=
  let sign := if d.isNegative then ['-'] else []
  let body :=
    if d.isZero then layout.text 0 0
    else
      let (m, q) := d.decompose
      let (k, e) := shortest m q d.hasNarrowLowerGap
      layout.text k e
  String.ofList (sign ++ body)

end Double

end Connector
