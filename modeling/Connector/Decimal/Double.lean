/-!
# Doubles as bit patterns

Every number that is not a machine integer is a binary double.  `Float` carries no decidable
equality and tells two zeros apart only through its bits, so a value that is stored, compared or
printed is kept as its 64 bits instead.

* `Double` — a *finite* double: the exponent field is never all ones, so neither an infinity nor
  a NaN can be stored.
* `Double.ofFloat?` — the finite floats, and nothing for the others.
* `Double.decompose` — the magnitude as an integer times a power of two, which is what exact
  decimal printing works on.
-/

namespace Connector

/-- **A finite double**, kept as its bits.  The exponent field of all ones is reserved for
infinities and NaN, which no stored value holds. -/
structure Double where
  bits : UInt64
  finite : (bits >>> 52) &&& 0x7FF ≠ 0x7FF := by decide
  deriving DecidableEq

namespace Double

/-- The exponent field of a bit pattern. -/
def exponentField (bits : UInt64) : Nat := ((bits >>> 52) &&& 0x7FF).toNat

/-- The fraction field of a bit pattern. -/
def fractionField (bits : UInt64) : Nat := (bits &&& 0xFFFFFFFFFFFFF).toNat

/-- The float that a bit pattern denotes. -/
def toFloat (d : Double) : Float := Float.ofBits d.bits

/-- The finite floats.  Infinities and NaN have no `Double`. -/
def ofFloat? (x : Float) : Option Double :=
  let bits := x.toBits
  if h : (bits >>> 52) &&& 0x7FF ≠ 0x7FF then some ⟨bits, h⟩ else none

/-- The sign bit: set for negative numbers and for the negative zero. -/
def isNegative (d : Double) : Bool := d.bits >>> 63 == 1

/-- Both zeros. -/
def isZero (d : Double) : Bool := d.bits &&& 0x7FFFFFFFFFFFFFFF == 0

/-- The positive zero. -/
def zero : Double := ⟨0, by decide⟩

/-- **The magnitude as an integer times a power of two.**  A normal number has the hidden bit
put in front of its fraction; a subnormal one shares the smallest exponent without it. -/
def decompose (d : Double) : Nat × Int :=
  let e := exponentField d.bits
  let f := fractionField d.bits
  if e = 0 then (f, -1074) else (f + Nat.pow 2 52, (e : Int) - 1075)

/-- The gap below a power of two is half the gap above it, except at the bottom of the range. -/
def hasNarrowLowerGap (d : Double) : Bool :=
  fractionField d.bits == 0 && exponentField d.bits > 1

end Double

end Connector
