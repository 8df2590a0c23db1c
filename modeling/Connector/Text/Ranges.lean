/-!
# Ranges of code points

Tables of characters are written as words in hexadecimal: `41` is one code point and `41-5a` all
from the first to the last.

* `Text.Range` — a closed range of code points.
* `Text.ranges` — the ranges of a table.
* `Text.contains` — whether a character lies in one of them.
-/

namespace Connector.Text

/-- **A closed range of code points.** -/
structure Range where
  first : Nat
  last : Nat
  deriving DecidableEq

/-- The value of a hexadecimal digit; other characters count nothing. -/
def hexDigitValue (c : Char) : Nat :=
  if c.isDigit then c.toNat - '0'.toNat
  else if 'a' ≤ c ∧ c ≤ 'f' then c.toNat - 'a'.toNat + 10
  else if 'A' ≤ c ∧ c ≤ 'F' then c.toNat - 'A'.toNat + 10
  else 0

/-- The value of hexadecimal digits. -/
def hexNumber (digits : List Char) : Nat := digits.foldl (fun n c => 16 * n + hexDigitValue c) 0

/-- One word of a table. -/
def readRange (word : String) : Range :=
  match word.splitOn "-" with
  | [first, last] => ⟨hexNumber first.toList, hexNumber last.toList⟩
  | _ => ⟨hexNumber word.toList, hexNumber word.toList⟩

/-- The words of a table, which may run over several lines. -/
def tableWords (table : String) : List String :=
  ((table.splitOn "\n").flatMap (·.splitOn " ")).filter fun word => !word.isEmpty

/-- The ranges of a table. -/
def ranges (table : String) : List Range := (tableWords table).map readRange

/-- Whether a code point lies in a range. -/
def Range.has (r : Range) (code : Nat) : Bool := r.first ≤ code && code ≤ r.last

/-- Whether a character lies in one of the ranges. -/
def contains (rs : List Range) (c : Char) : Bool := rs.any (·.has c.toNat)

end Connector.Text
