/-!
# Base 64

Bytes as text: every three bytes become four characters of six bits each, and one or two `=` mark
a last group of two bytes or one.

* `Text.Base64.encode` — the text of a list of bytes.
* `Text.Base64.ofText` — the text of the UTF-8 encoding of a text.
-/

namespace Connector.Text.Base64

/-- **The character of six bits**: the capital letters, the small ones, the digits, `+` and `/`. -/
def digit (n : Nat) : Char :=
  if n < 26 then Char.ofNat ('A'.toNat + n)
  else if n < 52 then Char.ofNat ('a'.toNat + (n - 26))
  else if n < 62 then Char.ofNat ('0'.toNat + (n - 52))
  else if n = 62 then '+'
  else '/'

/-- **The text of bytes**, three at a time. -/
def encode : List UInt8 → List Char
  | [] => []
  | [a] =>
    let n := a.toNat * 16
    [digit (n / 64), digit (n % 64), '=', '=']
  | [a, b] =>
    let n := (a.toNat * 256 + b.toNat) * 4
    [digit (n / 4096), digit (n / 64 % 64), digit (n % 64), '=']
  | a :: b :: c :: rest =>
    let n := (a.toNat * 256 + b.toNat) * 256 + c.toNat
    digit (n / 262144) :: digit (n / 4096 % 64) :: digit (n / 64 % 64)
      :: digit (n % 64) :: encode rest

/-- The text of the UTF-8 encoding of a text. -/
def ofText (s : String) : String := String.ofList (encode s.toUTF8.data.toList)

end Connector.Text.Base64
