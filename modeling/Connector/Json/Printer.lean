import Connector.Json.Basic
import Connector.Decimal.Shortest

/-!
# Writing JSON

* `Json.doubleLayout` — how a double is written in JSON: positional from `10 ^ -5` up to, but not
  including, `10 ^ 16`, with the sign always shown on an exponent.
* `Json.compress` — the text without any blanks.
* `Json.pretty` — one element or member a line, indented by two spaces a level.
* `Json.text` — a value as it is put into headers, addresses and output lines: strings bare,
  null empty, everything else compressed.
-/

namespace Connector

namespace Json

open Decimal

/-- **Doubles in JSON**: positional for exponents from −5 to 15, else with a signed exponent; a
whole number keeps its `.0`. -/
def doubleLayout : Layout := ⟨some (-5), some 16, "+", true⟩

/-- One hexadecimal digit in lower case. -/
def hexDigit (n : Nat) : Char := Nat.digitChar n

/-- A character inside a string literal: the two delimiters and the control characters are
escaped, everything else stands for itself. -/
def escapeChar (c : Char) : List Char :=
  match c with
  | '"' => ['\\', '"']
  | '\\' => ['\\', '\\']
  | '\n' => ['\\', 'n']
  | '\r' => ['\\', 'r']
  | '\t' => ['\\', 't']
  | '\x08' => ['\\', 'b']
  | '\x0c' => ['\\', 'f']
  | c =>
    if c.toNat < 0x20 then
      ['\\', 'u', '0', '0', hexDigit (c.toNat / 16), hexDigit (c.toNat % 16)]
    else [c]

/-- A string literal. -/
def quoted (s : String) : List Char := '"' :: (s.toList.flatMap escapeChar ++ ['"'])

/-- The text of a number. -/
def numberText : Number → String
  | .int n => toString n.val
  | .double d => d.text doubleLayout

/-- Texts with a separator between neighbours. -/
def joined (separator : List Char) : List (List Char) → List Char
  | [] => []
  | [x] => x
  | x :: rest => x ++ separator ++ joined separator rest

/-! ## Without blanks -/

mutual

/-- The compressed characters of a value. -/
def compressed : Json → List Char
  | .null => "null".toList
  | .bool true => "true".toList
  | .bool false => "false".toList
  | .num n => (numberText n).toList
  | .str s => quoted s
  | .arr items => '[' :: (joined [','] (compressedItems items) ++ [']'])
  | .obj fields => '\x7b' :: (joined [','] (compressedFields fields) ++ ['\x7d'])

/-- The elements of an array, one by one. -/
def compressedItems : List Json → List (List Char)
  | [] => []
  | v :: rest => compressed v :: compressedItems rest

/-- The members of an object, one by one. -/
def compressedFields : List (String × Json) → List (List Char)
  | [] => []
  | (k, v) :: rest => (quoted k ++ ':' :: compressed v) :: compressedFields rest

end

/-- **A value on one line without blanks.** -/
def compress (v : Json) : String := String.ofList (compressed v)

/-- **A value as text**: what headers, addresses and output lines show. -/
def text : Json → String
  | .null => ""
  | .bool b => if b then "true" else "false"
  | .num n => numberText n
  | .str s => s
  | v => compress v

/-! ## Indented -/

/-- A line break and the indentation of a level. -/
def lineBreak (level : Nat) : List Char := '\n' :: List.replicate (2 * level) ' '

/-- The parts of an array or object, one a line, between its brackets. -/
def block (opening closing : Char) (level : Nat) (parts : List (List Char)) : List Char :=
  if parts.isEmpty then [opening, closing]
  else
    opening :: (lineBreak (level + 1) ++ joined (',' :: lineBreak (level + 1)) parts
      ++ lineBreak level ++ [closing])

mutual

/-- The indented characters of a value that starts at a level. -/
def indented (level : Nat) : Json → List Char
  | .arr items => block '[' ']' level (indentedItems (level + 1) items)
  | .obj fields => block '\x7b' '\x7d' level (indentedFields (level + 1) fields)
  | .null => compressed .null
  | .bool b => compressed (.bool b)
  | .num n => compressed (.num n)
  | .str s => compressed (.str s)

/-- The elements of an array at a level. -/
def indentedItems (level : Nat) : List Json → List (List Char)
  | [] => []
  | v :: rest => indented level v :: indentedItems level rest

/-- The members of an object at a level. -/
def indentedFields (level : Nat) : List (String × Json) → List (List Char)
  | [] => []
  | (k, v) :: rest =>
    (quoted k ++ ':' :: ' ' :: indented level v) :: indentedFields level rest

end

/-- **A value over several lines**, indented by two spaces a level. -/
def pretty (v : Json) : String := String.ofList (indented 0 v)

end Json

end Connector
