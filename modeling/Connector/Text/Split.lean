/-!
# Cutting a text at a delimiter

* `Text.pieces` — the pieces between the leftmost occurrences of a delimiter that do not overlap,
  at most as many cuts as are allowed.
* `Text.splitOn` — the pieces of a text; the empty delimiter stands between all characters and at
  both ends.
* `Text.replace` — every occurrence of one text exchanged for another.
* `Text.lines` — the lines of a text, without their ends.
-/

namespace Connector.Text

/-- **The pieces of a list of characters** at a delimiter that is not empty.  `cuts` bounds the
number of cuts, `skip` counts the characters of a delimiter that are still to be passed, and
`piece` holds the current piece in reverse. -/
def pieces (delimiter : List Char) (cuts : Option Nat) (skip : Nat) (piece : List Char) :
    List Char → List (List Char)
  | [] => [piece.reverse]
  | c :: rest =>
    match skip with
    | skip + 1 => pieces delimiter cuts skip piece rest
    | 0 =>
      if cuts ≠ some 0 ∧ delimiter.isPrefixOf (c :: rest) then
        piece.reverse
          :: pieces delimiter (cuts.map (· - 1)) (delimiter.length - 1) [] rest
      else pieces delimiter cuts 0 (c :: piece) rest

/-- The pieces at the empty delimiter: nothing at both ends and every character by itself. -/
def singles (cs : List Char) : List (List Char) := [] :: (cs.map fun c => [c]) ++ [[]]

/-- The first `n` pieces by themselves and the others joined again, for the empty delimiter. -/
def limited (cuts : Option Nat) (parts : List (List Char)) : List (List Char) :=
  match cuts with
  | none => parts
  | some n =>
    if n < parts.length then parts.take n ++ [(parts.drop n).flatten] else parts

/-- The pieces of characters at any delimiter. -/
def split (delimiter : List Char) (cuts : Option Nat) (cs : List Char) : List (List Char) :=
  if delimiter.isEmpty then limited cuts (singles cs) else pieces delimiter cuts 0 [] cs

/-- **The pieces of a text at a delimiter.** -/
def splitOn (delimiter : String) (s : String) : List String :=
  (split delimiter.toList none s.toList).map String.ofList

/-- The pieces of a text after at most `cuts` cuts. -/
def splitFirst (delimiter : String) (cuts : Nat) (s : String) : List String :=
  (split delimiter.toList (some cuts) s.toList).map String.ofList

/-- Pieces with a text between neighbours. -/
def joinWith (separator : List Char) : List (List Char) → List Char
  | [] => []
  | [piece] => piece
  | piece :: rest => piece ++ separator ++ joinWith separator rest

/-- **Exchange every occurrence of a text.** -/
def replace (old new : String) (s : String) : String :=
  String.ofList (joinWith new.toList (split old.toList none s.toList))

/-- Whether a text occurs in another. -/
def occursIn (needle : String) (s : String) : Bool :=
  needle.isEmpty || (pieces needle.toList none 0 [] s.toList).length > 1

/-- A line without the carriage return at its end. -/
def dropReturn (line : List Char) : List Char :=
  match line.reverse with
  | '\r' :: rest => rest.reverse
  | _ => line

/-- **The lines of a text.**  A line break ends a line, so that nothing follows the last one. -/
def lines (s : String) : List String :=
  let parts := pieces ['\n'] none 0 [] s.toList
  match parts.getLast? with
  | some [] => parts.dropLast.map fun line => String.ofList (dropReturn line)
  | some last =>
    (parts.dropLast.map fun line => String.ofList (dropReturn line)) ++ [String.ofList last]
  | none => []

end Connector.Text
