import Connector.Text.Letters

/-!
# Quoted texts

A text inside a list or map is shown in quotes, so that its limits and its invisible characters
can be seen.

* `Text.quoted` — a text in double quotes.  The quote, the backslash and the usual controls have
  letter escapes; whatever has no shape of its own is given by its code point.
-/

namespace Connector.Text

/-- The code point of a character in braces. -/
def codeEscape (c : Char) : List Char :=
  ['\\', 'u', '\x7b'] ++ Nat.toDigits 16 c.toNat ++ ['\x7d']

/-- A character between quotes. -/
def quotedChar (c : Char) : List Char :=
  match c with
  | '\x00' => ['\\', '0']
  | '\t' => ['\\', 't']
  | '\r' => ['\\', 'r']
  | '\n' => ['\\', 'n']
  | '\\' => ['\\', '\\']
  | '"' => ['\\', '"']
  | c => if extendsGrapheme c || !isPrintable c then codeEscape c else [c]

/-- **A text in double quotes.** -/
def quoted (s : String) : String := String.ofList ('"' :: (s.toList.flatMap quotedChar ++ ['"']))

end Connector.Text
