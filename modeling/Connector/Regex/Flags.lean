import Connector.Regex.Search

/-!
# Flags, and what they make of the parts of a pattern

The flags of a pattern change from place to place.  They decide what a literal, a dot, a class
letter or a line anchor denotes, and some combinations denote nothing: with only ASCII in force
every set has to stay within ASCII.

* `Regex.Flags` — the seven flags; `Flags.set?` changes one by its letter.
* `Flags.literal?`, `Flags.dot?`, `Flags.classLetter?`, `Flags.asciiClass?`, `Flags.finish?` — the
  set or expression of a part under the flags.
-/

namespace Connector.Regex

/-- **The flags in force** at a place of a pattern. -/
structure Flags where
  /-- Letters stand for all letters that differ only in case. -/
  caseless : Bool := false
  /-- `^` and `$` hold at every line, not only at both ends of the text. -/
  multiline : Bool := false
  /-- The dot includes line breaks. -/
  dotAll : Bool := false
  /-- Repetitions are greedy where they are marked as lazy and the other way round. -/
  swapGreed : Bool := false
  /-- Classes hold ASCII characters only. -/
  ascii : Bool := false
  /-- A carriage return breaks lines too. -/
  returns : Bool := false
  /-- Blanks and comments in the pattern are skipped. -/
  spaced : Bool := false

namespace Flags

/-- Switch one flag, found under its letter. -/
def set? (f : Flags) (letter : Char) (on : Bool) : Option Flags :=
  match letter with
  | 'i' => some { f with caseless := on }
  | 'm' => some { f with multiline := on }
  | 's' => some { f with dotAll := on }
  | 'U' => some { f with swapGreed := on }
  | 'u' => some { f with ascii := !on }
  | 'R' => some { f with returns := on }
  | 'x' => some { f with spaced := on }
  | _ => none

/-- A set together with what differs from it only in case, if case does not count. -/
def fold (f : Flags) (s : CharSet) : CharSet :=
  if f.caseless then (if f.ascii then .asciiCaseless s else .caseless s) else s

/-- **The set of a finished class**: case first, then the complement, which no ASCII class has. -/
def finish? (f : Flags) (negated : Bool) (s : CharSet) : Option CharSet :=
  if negated then (if f.ascii then none else some (.compl (f.fold s))) else some (f.fold s)

/-- A character by itself.  Beyond ASCII an ASCII pattern may write it, but not as a byte. -/
def literal? (f : Flags) (c : Char) (asByte : Bool) : Option Regex :=
  if f.ascii && asByte && c.toNat ≥ 0x80 then none
  else if f.caseless && (Text.caseVariants c).length > 1 then some (.one (f.fold (.single c)))
  else some (.one (.single c))

/-- Every character that does not break a line, or every character. -/
def dot? (f : Flags) : Option Regex :=
  if f.ascii then none
  else if f.dotAll then some (.one (.compl .empty))
  else if f.returns then some (.one (.compl (.union (.single '\r') (.single '\n'))))
  else some (.one (.compl (.single '\n')))

/-- The start of a text or line. -/
def opening (f : Flags) : Anchor :=
  if f.multiline then (if f.returns then .returnLineStart else .lineStart) else .textStart

/-- The end of a text or line. -/
def closing (f : Flags) : Anchor :=
  if f.multiline then (if f.returns then .returnLineEnd else .lineEnd) else .textEnd

/-- The ASCII characters of words. -/
def asciiWord : CharSet := .ranges (Text.ranges "30-39 41-5a 5f 61-7a")

/-- Digits, blanks and the characters of words. -/
def lowerClassLetter? (f : Flags) (letter : Char) : Option CharSet :=
  match letter with
  | 'd' => some (if f.ascii then .between '0' '9' else CharSet.ofCategories [.nd])
  | 's' =>
    some (.ranges (Text.ranges (if f.ascii then "9-d 20"
      else "9-d 20 85 a0 1680 2000-200a 2028-2029 202f 205f 3000")))
  | 'w' => some (if f.ascii then asciiWord else .satisfying Text.isWordChar)
  | _ => none

/-- **The set of a class letter**; a capital letter is the complement. -/
def classLetter? (f : Flags) (letter : Char) : Option CharSet := do
  let s ← f.lowerClassLetter? letter.toLower
  if letter.isUpper then (if f.ascii then none else some (.compl s)) else some s

/-- The set of a named ASCII class. -/
def asciiClassNamed? (name : String) : Option CharSet :=
  (fun table => CharSet.ranges (Text.ranges table)) <$>
    match name with
    | "alnum" => some "30-39 41-5a 61-7a"
    | "alpha" => some "41-5a 61-7a"
    | "ascii" => some "0-7f"
    | "blank" => some "9 20"
    | "cntrl" => some "0-1f 7f"
    | "digit" => some "30-39"
    | "graph" => some "21-7e"
    | "lower" => some "61-7a"
    | "print" => some "20-7e"
    | "punct" => some "21-2f 3a-40 5b-60 7b-7e"
    | "space" => some "9-d 20"
    | "upper" => some "41-5a"
    | "word" => some "30-39 41-5a 5f 61-7a"
    | "xdigit" => some "30-39 41-46 61-66"
    | _ => none

/-- The set of a property, by its name or by a name and a value; an ASCII pattern has none. -/
def property? (f : Flags) (negated : Bool) (name : String) (value? : Option String) :
    Option CharSet :=
  if f.ascii then none
  else
    match value? with
    | some value => (CharSet.propertyValue? name value).bind (f.finish? negated)
    | none => (CharSet.property? name).bind (f.finish? negated)

end Flags

end Connector.Regex
