/-!
# Blanks

The characters of white space, and texts without them at their ends.

* `Text.isBlank` — the 25 characters of white space.
* `Text.trim` — a text without the blanks at its ends.
* `Text.words` — the pieces between blanks.
-/

namespace Connector.Text

/-- **White space**: the controls from tab to carriage return, the spaces and the separators. -/
def isBlank (c : Char) : Bool :=
  let n := c.toNat
  (9 ≤ n && n ≤ 13) || n == 0x20 || n == 0x85 || n == 0xA0 || n == 0x1680
    || (0x2000 ≤ n && n ≤ 0x200A) || n == 0x2028 || n == 0x2029 || n == 0x202F || n == 0x205F
    || n == 0x3000

/-- Characters without the blanks at their end. -/
def dropEndBlanks (cs : List Char) : List Char := (cs.reverse.dropWhile isBlank).reverse

/-- **A text without the blanks at its ends.** -/
def trim (s : String) : String := String.ofList (dropEndBlanks (s.toList.dropWhile isBlank))

/-- Whether nothing but blanks is in a text. -/
def isBlankText (s : String) : Bool := s.toList.all isBlank

/-- Characters without those at both ends that pass a test. -/
def stripBoth (test : Char → Bool) (cs : List Char) : List Char :=
  (((cs.dropWhile test).reverse).dropWhile test).reverse

/-- The words of a list of characters, collected in reverse behind `word`. -/
def wordsFrom (word : List Char) : List Char → List (List Char)
  | [] => if word.isEmpty then [] else [word.reverse]
  | c :: rest =>
    if isBlank c then
      if word.isEmpty then wordsFrom [] rest else word.reverse :: wordsFrom [] rest
    else wordsFrom (c :: word) rest

/-- The pieces of a text between blanks. -/
def words (s : String) : List String := (wordsFrom [] s.toList).map String.ofList

end Connector.Text
