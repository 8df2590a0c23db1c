import Connector.Regex.Flags
import Connector.Text.Split

/-!
# Reading patterns

A pattern is read from left to right while the flags change.  Reading fails as a whole: a pattern
is either an expression or malformed.

* `Regex.readClass?` — a bracketed class behind its opening bracket.
* `Regex.readEscape?` — what a backslash introduces.
* `Regex.readBranches?` — alternatives up to the end of their group.
* `Regex.parse?` — the expression of a whole pattern.

Every call of a reader that calls itself takes one unit of `fuel`; each such call has consumed a
character, so that the length of the pattern bounds the calls.  A class is read by two readers that
call each other, and takes two units for a character.
-/

namespace Connector.Regex

/-! ## Blanks -/

/-- Skip blanks and comments, starting inside a comment or not. -/
def skipIgnored (inComment : Bool) : List Char → List Char
  | [] => []
  | c :: rest =>
    if inComment then skipIgnored (c ≠ '\n') rest
    else if Text.isBlank c then skipIgnored false rest
    else if c = '#' then skipIgnored true rest
    else c :: rest

/-- Skip what the flags say is to be ignored. -/
def Flags.skip (f : Flags) (cs : List Char) : List Char :=
  if f.spaced then skipIgnored false cs else cs

/-! ## Runs of characters -/

/-- The characters up to a given one, which is left out. -/
def readUpTo? (stop : Char) : List Char → Option (List Char × List Char)
  | [] => none
  | c :: rest =>
    if c = stop then some ([], rest)
    else (readUpTo? stop rest).map fun (cs, rest) => (c :: cs, rest)

/-- The characters for as long as they are of a kind, blanks between them being skipped where the
flags say so. -/
def readWhile (f : Flags) (kind : Char → Bool) : Nat → List Char → List Char × List Char
  | 0, cs => ([], cs)
  | _ + 1, [] => ([], [])
  | fuel + 1, c :: rest =>
    if kind c then
      let (cs, rest) := readWhile f kind fuel (f.skip rest)
      (c :: cs, rest)
    else ([], c :: rest)

/-! ## Escapes -/

/-- **What an escape stands for.** -/
inductive Escape where
  | literal (c : Char) (asByte : Bool)
  | set (s : CharSet)
  | anchor (a : Anchor)

/-- Characters with a meaning of their own, which a backslash takes away. -/
def isMeta (c : Char) : Bool := "\\.+*?()|[]\x7b\x7d^$#&-~".toList.contains c

/-- Whether a backslash before the character changes nothing. -/
def isEscapable (c : Char) : Bool :=
  isMeta c || (c.toNat < 0x80 && !c.isAlphanum && c ≠ '<' && c ≠ '>')

/-- The value of a hexadecimal digit. -/
def hexValue? (c : Char) : Option Nat :=
  if c.isDigit || ('a' ≤ c && c ≤ 'f') || ('A' ≤ c && c ≤ 'F') then some (Text.hexDigitValue c)
  else none

/-- The character with a code, unless the code is a surrogate or too large. -/
def charOfCode? (n : Nat) : Option Char :=
  if n < 0xD800 ∨ (0xE000 ≤ n ∧ n < 0x110000) then some (Char.ofNat n) else none

/-- Exactly `n` hexadecimal digits. -/
def readHexDigits? (f : Flags) : Nat → Nat → List Char → Option (Nat × List Char)
  | 0, value, cs => some (value, cs)
  | n + 1, value, c :: rest => do
    let d ← hexValue? c
    readHexDigits? f n (16 * value + d) (f.skip rest)
  | _ + 1, _, [] => none

/-- Hexadecimal digits up to a closing brace. -/
def readHexInBraces? (f : Flags) : Nat → Option Nat → List Char → Option (Nat × List Char)
  | 0, _, _ => none
  | _ + 1, _, [] => none
  | _ + 1, value?, '\x7d' :: rest => value?.map fun value => (value, f.skip rest)
  | fuel + 1, value?, c :: rest => do
    let d ← hexValue? c
    readHexInBraces? f fuel (some (16 * value?.getD 0 + d)) (f.skip rest)

/-- How many digits the code of a character has behind a letter. -/
def codeLength (letter : Char) : Nat := if letter = 'x' then 2 else if letter = 'u' then 4 else 8

/-- A character given by its code: between braces, or by a number of digits. -/
def codeHere? (f : Flags) (letter : Char) : List Char → Option (Escape × List Char)
  | '\x7b' :: rest => do
    let (n, rest) ← readHexInBraces? f (rest.length + 1) none (f.skip rest)
    let c ← charOfCode? n
    some (.literal c false, rest)
  | cs => do
    let (n, rest) ← readHexDigits? f (codeLength letter) 0 cs
    let c ← charOfCode? n
    some (.literal c (letter = 'x'), rest)

/-- A character given by its code behind `x`, `u` or `U`. -/
def readCode? (f : Flags) (letter : Char) (cs : List Char) : Option (Escape × List Char) :=
  codeHere? f letter (f.skip cs)

/-- The characters up to a closing brace. -/
def readUpToBrace? (f : Flags) : Nat → List Char → Option (List Char × List Char)
  | 0, _ => none
  | _ + 1, [] => none
  | _ + 1, '\x7d' :: rest => some ([], rest)
  | fuel + 1, c :: rest => do
    let (cs, rest) ← readUpToBrace? f fuel (f.skip rest)
    some (c :: cs, rest)

/-- The set of a property between braces: a name, or a name and a value. -/
def namedProperty? (f : Flags) (negated : Bool) (text : List Char) : Option CharSet :=
  let s := String.ofList text
  match Text.splitFirst "!=" 1 s with
  | [name, value] => f.property? (!negated) name (some value)
  | _ =>
    match Text.splitFirst ":" 1 s with
    | [name, value] => f.property? negated name (some value)
    | _ =>
      match Text.splitFirst "=" 1 s with
      | [name, value] => f.property? negated name (some value)
      | _ => f.property? negated s none

/-- A property: its name between braces, or a single letter. -/
def propertyHere? (f : Flags) (negated : Bool) : List Char → Option (Escape × List Char)
  | [] => none
  | c :: rest =>
    if c = '\\' then none
    else if c = '\x7b' then do
      let (name, rest) ← readUpToBrace? f (rest.length + 1) (f.skip rest)
      let s ← namedProperty? f negated name
      some (.set s, rest)
    else do
      let s ← f.property? negated (String.singleton c) none
      some (.set s, f.skip rest)

/-- A property behind `p` or `P`. -/
def readProperty? (f : Flags) (negated : Bool) (cs : List Char) : Option (Escape × List Char) :=
  propertyHere? f negated (f.skip cs)

/-- Whether a character may stand in the name of a word boundary. -/
def isBoundaryChar (c : Char) : Bool := c.isAlpha || c = '-'

/-- The word boundary of a name. -/
def boundaryNamed? (f : Flags) (name : String) : Option Anchor :=
  match name with
  | "start" => some (.wordStart f.ascii)
  | "end" => some (.wordEnd f.ascii)
  | "start-half" => some (.wordStartHalf f.ascii)
  | "end-half" => some (.wordEndHalf f.ascii)
  | _ => none

/-- The closing brace behind the name of a word boundary. -/
def boundaryEnd? (f : Flags) (name : List Char) : List Char → Option (Escape × List Char)
  | [] => none
  | c :: rest =>
    if c = '\x7d' then (boundaryNamed? f (String.ofList name)).map fun a => (.anchor a, rest)
    else none

/-- The name of a word boundary up to its closing brace. -/
def readBoundaryName? (f : Flags) (cs : List Char) : Option (Escape × List Char) :=
  match readWhile f isBoundaryChar cs.length cs with
  | (name, rest) => boundaryEnd? f name rest

/-- A word boundary behind `b`: what follows in braces is a name if it starts like one, and the
bounds of a repetition otherwise. -/
def readBoundary? (f : Flags) (cs : List Char) : Option (Escape × List Char) :=
  match cs with
  | '\x7b' :: inner =>
    match f.skip inner with
    | [] => none
    | c :: rest =>
      if isBoundaryChar c then readBoundaryName? f (c :: rest)
      else some (.anchor (.word f.ascii), cs)
  | _ => some (.anchor (.word f.ascii), cs)

/-- **An escape**, behind its backslash. -/
def readEscape? (f : Flags) : List Char → Option (Escape × List Char)
  | [] => none
  | c :: rest =>
    if c.isDigit then none
    else if c = 'x' ∨ c = 'u' ∨ c = 'U' then readCode? f c rest
    else if c = 'p' ∨ c = 'P' then readProperty? f (c = 'P') rest
    else if "dswDSW".toList.contains c then (f.classLetter? c).map fun s => (.set s, rest)
    else if isEscapable c then some (.literal c false, rest)
    else
      match c with
      | 'a' => some (.literal '\x07' false, rest)
      | 'f' => some (.literal '\x0c' false, rest)
      | 't' => some (.literal '\t' false, rest)
      | 'n' => some (.literal '\n' false, rest)
      | 'r' => some (.literal '\r' false, rest)
      | 'v' => some (.literal '\x0b' false, rest)
      | 'A' => some (.anchor .textStart, rest)
      | 'z' => some (.anchor .textEnd, rest)
      | 'b' => readBoundary? f rest
      | 'B' => some (.anchor (.notWord f.ascii), rest)
      | '<' => some (.anchor (.wordStart f.ascii), rest)
      | '>' => some (.anchor (.wordEnd f.ascii), rest)
      | _ => none

/-! ## Classes -/

/-- The three operations on sets inside a class. -/
inductive SetOperation where
  | both
  | minus
  | symmetric

/-- Two sets joined by an operation, case being settled first. -/
def SetOperation.apply (op : SetOperation) (f : Flags) (s t : CharSet) : CharSet :=
  match op with
  | .both => .inter (f.fold s) (f.fold t)
  | .minus => CharSet.minus (f.fold s) (f.fold t)
  | .symmetric => CharSet.symmetric (f.fold s) (f.fold t)

/-- A set with the operation that is waiting for it. -/
def settle (f : Flags) (waiting : Option (CharSet × SetOperation)) (s : CharSet) : CharSet :=
  match waiting with
  | none => s
  | some (left, op) => op.apply f left s

/-- A circumflex, which negates a class. -/
def readNegation : List Char → Bool × List Char
  | '^' :: rest => (true, rest)
  | cs => (false, cs)

/-- The name of an ASCII class up to its closing bracket, with whether it is negated. -/
def asciiClassHere? (negated : Bool) (cs : List Char) : Option ((CharSet × Bool) × List Char) := do
  let (name, rest) ← readUpTo? ':' cs
  match rest with
  | ']' :: rest =>
    (Flags.asciiClassNamed? (String.ofList name)).map fun s => ((s, negated), rest)
  | _ => none

/-- A named ASCII class behind its opening bracket, with whether it is negated. -/
def asciiClass? (cs : List Char) : Option ((CharSet × Bool) × List Char) :=
  match cs with
  | ':' :: cs => asciiClassHere? (readNegation cs).1 (readNegation cs).2
  | _ => none

/-- One part of a class: a character or an escape. -/
def readClassPart? (f : Flags) : List Char → Option (Escape × List Char)
  | [] => none
  | '\\' :: rest => readEscape? f rest
  | c :: rest => some (.literal c false, rest)

/-- The character that a part of a class is. -/
def Escape.char? (f : Flags) : Escape → Option Char
  | .literal c _ => if f.ascii && c.toNat ≥ 0x80 then none else some c
  | _ => none

/-- The set that a part of a class is. -/
def Escape.set? (f : Flags) : Escape → Option CharSet
  | .set s => some s
  | .anchor _ => none
  | e => (e.char? f).map .single

/-- The last character of a range behind its minus sign; without one the minus sign is a part of its
own. -/
def rangeEnd? (f : Flags) (part : Escape) (cs : List Char) : Option (CharSet × List Char) :=
  match f.skip cs with
  | [] => none
  | c :: rest =>
    if c = ']' ∨ c = '-' then (part.set? f).map fun s => (s, '-' :: cs)
    else do
      let (last, rest) ← readClassPart? f (c :: rest)
      let a ← part.char? f
      let b ← last.char? f
      if a ≤ b then some (.between a b, rest) else none

/-- What a part of a class and what follows it come to: a range, or the part alone. -/
def rangeHere? (f : Flags) (part : Escape) : List Char → Option (CharSet × List Char)
  | '-' :: rest => rangeEnd? f part rest
  | cs => (part.set? f).map fun s => (s, cs)

/-- A part of a class, or a range between two. -/
def readClassRange? (f : Flags) (cs : List Char) : Option (CharSet × List Char) := do
  let (part, rest) ← readClassPart? f cs
  rangeHere? f part (f.skip rest)

/-- An operation on sets. -/
def readOperation? : List Char → Option (SetOperation × List Char)
  | '&' :: '&' :: rest => some (.both, rest)
  | '-' :: '-' :: rest => some (.minus, rest)
  | '~' :: '~' :: rest => some (.symmetric, rest)
  | _ => none

/-- The literal minus signs at the start of a class, and a closing bracket that is the very first
character. -/
def readClassOpening (f : Flags) : Nat → Bool → CharSet → List Char → CharSet × List Char
  | 0, _, s, cs => (s, cs)
  | _ + 1, _, s, [] => (s, [])
  | fuel + 1, first, s, c :: rest =>
    if c = '-' then readClassOpening f fuel false (.union s (.single '-')) (f.skip rest)
    else if c = ']' ∧ first then (.union s (.single ']'), f.skip rest)
    else (s, c :: rest)

mutual

/-- **A bracketed class** behind its opening bracket, and how deep classes are nested in it. -/
def readClass? (f : Flags) : Nat → List Char → Option ((CharSet × Nat) × List Char)
  | 0, _ => none
  | fuel + 1, cs => do
    let (negated, cs) := readNegation (f.skip cs)
    let cs := f.skip cs
    let (s, cs) := readClassOpening f cs.length true .empty cs
    let ((s, depth), rest) ← readClassItems? f fuel none s 0 cs
    let s ← f.finish? negated s
    some ((s, depth + 1), rest)

/-- The items of a class up to its closing bracket. -/
def readClassItems? (f : Flags) :
    Nat → Option (CharSet × SetOperation) → CharSet → Nat → List Char →
      Option ((CharSet × Nat) × List Char)
  | 0, _, _, _, _ => none
  | fuel + 1, waiting, s, depth, cs =>
    match f.skip cs with
    | [] => none
    | c :: rest =>
      if c = ']' then some ((settle f waiting s, depth), rest)
      else
        match readOperation? (c :: rest) with
        | some (op, rest) =>
          readClassItems? f fuel (some (settle f waiting s, op)) .empty depth rest
        | none =>
          if c = '[' then
            match asciiClass? rest with
            | some ((t, negated), rest) => do
              let t ← f.finish? negated t
              readClassItems? f fuel waiting (.union s t) depth rest
            | none => do
              let ((t, inner), rest) ← readClass? f fuel rest
              readClassItems? f fuel waiting (.union s t) (max depth inner) rest
          else do
            let (t, rest) ← readClassRange? f (c :: rest)
            readClassItems? f fuel waiting (.union s t) depth rest

end

/-! ## Groups and repetitions -/

/-- **An expression and how deep it is nested.** -/
structure Piece where
  node : Regex
  depth : Nat

/-- The pieces of a branch in a row; they are given in reverse. -/
def Piece.sequence (items : List Piece) : Piece :=
  match items with
  | [] => ⟨.empty, 0⟩
  | [p] => p
  | last :: before =>
    ⟨before.foldl (fun r p => .seq p.node r) last.node,
      before.foldl (fun d p => max d p.depth) last.depth + 1⟩

/-- Branches as alternatives; they are given in reverse. -/
def Piece.alternatives (branches : List Piece) : Piece :=
  match branches with
  | [] => ⟨.empty, 0⟩
  | [p] => p
  | last :: before =>
    ⟨before.foldl (fun r p => .either p.node r) last.node,
      before.foldl (fun d p => max d p.depth) last.depth + 1⟩

/-- Where reading has come to, under which flags, and the names of the groups so far. -/
structure Reader where
  rest : List Char
  flags : Flags
  names : List String

/-- Whether a character may stand in the name of a group. -/
def isNameChar (first : Bool) (c : Char) : Bool :=
  if first then c = '_' || Text.isAlphabetic c
  else
    c = '_' || c = '.' || c = '[' || c = ']' || Text.isAlphabetic c
      || Text.category c = .nd || Text.category c = .nl || Text.category c = .no

/-- The name of a group up to its closing bracket; no two groups have the same name. -/
def readGroupName? (names : List String) (cs : List Char) : Option (String × List Char) := do
  let (name, rest) ← readUpTo? '>' cs
  match name with
  | c :: more =>
    if isNameChar true c && more.all (isNameChar false) && !names.contains (String.ofList name) then
      some (String.ofList name, rest)
    else none
  | [] => none

/-- Flags up to a colon or a closing parenthesis, which is returned, with whether there are none. -/
def readFlags? (f : Flags) (on : Bool) (seen : List Char) :
    List Char → Option ((Flags × Char × Bool) × List Char)
  | [] => none
  | c :: rest =>
    if c = ':' ∨ c = ')' then
      if seen.head? = some '-' then none else some ((f, c, seen.isEmpty), rest)
    else if seen.contains c then none
    else if c = '-' then readFlags? f false (c :: seen) rest
    else
      match f.set? c on with
      | some f => readFlags? f on (c :: seen) rest
      | none => none

/-- **What an opening parenthesis introduces.** -/
inductive Opening where
  | flags (f : Flags)
  | group (f : Flags)
  | named (name : String)
  | plain

/-- What is inside a group, under the flags and with the names that are known there. -/
def Opening.inside (f : Flags) (names : List String) (rest : List Char) : Opening → Reader
  | .named name => ⟨rest, f, name :: names⟩
  | .group g => ⟨rest, g, names⟩
  | _ => ⟨rest, f, names⟩

/-- The piece of a group. -/
def Opening.piece (p : Piece) : Opening → Piece
  | .named name => ⟨.named name p.node, p.depth + 1⟩
  | _ => ⟨p.node, p.depth + 1⟩

/-- Flags for a group or for what follows. -/
def flagsOpening? (f : Flags) (cs : List Char) : Option (Opening × List Char) := do
  let ((f, stop, bare), rest) ← readFlags? f true [] cs
  if stop = ':' then some (.group f, rest)
  else if bare then none
  else some (.flags f, rest)

/-- The name for a group. -/
def nameOpening? (names : List String) (cs : List Char) : Option (Opening × List Char) :=
  (readGroupName? names cs).map fun (name, rest) => (.named name, rest)

/-- What a question mark behind an opening parenthesis introduces.  What looks around is neither a
name nor a flag, and so refused. -/
def specialOpening? (f : Flags) (names : List String) :
    List Char → Option (Opening × List Char)
  | '<' :: rest | 'P' :: '<' :: rest => nameOpening? names rest
  | cs => flagsOpening? f cs

/-- The kind of a group, behind its opening parenthesis. -/
def readOpening? (f : Flags) (names : List String) : List Char → Option (Opening × List Char)
  | '?' :: rest => specialOpening? f names rest
  | cs => some (.plain, cs)

/-- The bound that some digits are, unless it is `2 ^ 32` or more. -/
def boundOf? (digits : List Char) : Option Nat :=
  let n := digits.foldl (fun n d => 10 * n + (d.toNat - '0'.toNat)) 0
  if digits.isEmpty ∨ Nat.pow 2 32 ≤ n then none else some n

/-- A bound of a repetition, with blanks around it. -/
def readBound? (f : Flags) (cs : List Char) : Option (Nat × List Char) :=
  match readWhile f Char.isDigit cs.length (cs.dropWhile Text.isBlank) with
  | (digits, rest) =>
    (boundOf? digits).map fun n => (n, f.skip (rest.dropWhile Text.isBlank))

/-- The closing brace of a repetition whose bounds have been read. -/
def closeBounds? (f : Flags) (least : Nat) (most : Option Nat) :
    List Char → Option ((Nat × Option Nat) × List Char)
  | '\x7d' :: rest =>
    if most.all (least ≤ ·) then some ((least, most), f.skip rest) else none
  | _ => none

/-- The upper bound of a repetition behind the comma, if there is one. -/
def upperBound? (f : Flags) (least : Nat) (cs : List Char) :
    Option ((Nat × Option Nat) × List Char) :=
  match cs with
  | '\x7d' :: _ => closeBounds? f least none cs
  | _ => do
    let (most, rest) ← readBound? f cs
    closeBounds? f least (some most) rest

/-- What follows the lower bound of a repetition. -/
def boundsBehind? (f : Flags) (least : Nat) : List Char → Option ((Nat × Option Nat) × List Char)
  | ',' :: rest => upperBound? f least (f.skip rest)
  | cs => closeBounds? f least (some least) cs

/-- The bounds of a repetition behind the opening brace. -/
def readBounds? (f : Flags) (cs : List Char) : Option ((Nat × Option Nat) × List Char) := do
  let (least, rest) ← readBound? f (f.skip cs)
  boundsBehind? f least rest

/-- Whether a character asks for a repetition. -/
def isRepetition (c : Char) : Bool := c = '?' || c = '*' || c = '+' || c = '\x7b'

/-- The bounds of a repetition behind its first character. -/
def readRepetition? (f : Flags) (c : Char) (cs : List Char) :
    Option ((Nat × Option Nat) × List Char) :=
  if c = '?' then some ((0, some 1), cs)
  else if c = '*' then some ((0, none), cs)
  else if c = '+' then some ((1, none), cs)
  else readBounds? f cs

/-- A question mark, which makes a repetition lazy. -/
def readLaziness : List Char → Bool × List Char
  | '?' :: rest => (true, rest)
  | cs => (false, cs)

/-- The last item of a branch repeated; there has to be an item, and flags are none. -/
def repeatLast? (f : Flags) (least : Nat) (most : Option Nat) (lazy : Bool)
    (items : List (Option Piece)) : Option (List (Option Piece)) :=
  match items with
  | some p :: before =>
    some (some ⟨.rounds p.node least most (!lazy != f.swapGreed), p.depth + 1⟩ :: before)
  | _ => none

/-- The expression of an escape. -/
def Escape.node? (f : Flags) : Escape → Option Regex
  | .literal c asByte => f.literal? c asByte
  | .set s => some (.one s)
  | .anchor a => some (.anchor a)

/-- A single character, escape or anchor. -/
def readPrimitive? (f : Flags) : List Char → Option (Regex × List Char)
  | [] => none
  | c :: rest =>
    if c = '\\' then do
      let (e, rest) ← readEscape? f rest
      (e.node? f).map fun r => (r, rest)
    else if c = '.' then f.dot?.map fun r => (r, rest)
    else if c = '^' then some (.anchor f.opening, rest)
    else if c = '$' then some (.anchor f.closing, rest)
    else (f.literal? c false).map fun r => (r, rest)

/-- **Alternatives** up to the end of the pattern or the closing parenthesis of their group.
`branches` are the alternatives that are complete, `items` the parts of the current one, both in
reverse; flags are a part without a piece. -/
def readBranches? : Nat → List Piece → List (Option Piece) → Reader → Option (Piece × Reader)
  | 0, _, _, _ => none
  | fuel + 1, branches, items, r =>
    let f := r.flags
    let branch := Piece.sequence (items.filterMap id)
    match f.skip r.rest with
    | [] => some (Piece.alternatives (branch :: branches), { r with rest := [] })
    | c :: rest =>
      if c = ')' then some (Piece.alternatives (branch :: branches), { r with rest := c :: rest })
      else if c = '|' then readBranches? fuel (branch :: branches) [] { r with rest := rest }
      else if c = '(' then do
        let (opening, rest) ← readOpening? f r.names (f.skip rest)
        match opening with
        | .flags f => readBranches? fuel branches (none :: items) ⟨rest, f, r.names⟩
        | _ =>
          -- inside, reading stops at the closing parenthesis or at the end of the pattern
          let (p, inner) ← readBranches? fuel [] [] (opening.inside f r.names rest)
          match inner.rest with
          | [] => none
          | _ :: rest =>
            readBranches? fuel branches (some (opening.piece p) :: items) ⟨rest, f, inner.names⟩
      else if c = '[' then do
        let ((s, depth), rest) ← readClass? f (2 * rest.length + 1) rest
        readBranches? fuel branches (some ⟨.one s, depth⟩ :: items) { r with rest := rest }
      else if isRepetition c then do
        let ((least, most), rest) ← readRepetition? f c rest
        let items ← repeatLast? f least most (readLaziness rest).1 items
        readBranches? fuel branches items { r with rest := (readLaziness rest).2 }
      else do
        let (node, rest) ← readPrimitive? f (c :: rest)
        readBranches? fuel branches (some ⟨node, 0⟩ :: items) { r with rest := rest }

/-- The deepest nesting that a pattern may have. -/
def maxDepth : Nat := 250

/-- **The expression of a pattern**, if it is well formed. -/
def parse? (pattern : String) : Option Regex :=
  let cs := pattern.toList
  match readBranches? (cs.length + 1) [] [] ⟨cs, {}, []⟩ with
  | some (p, ⟨[], _, _⟩) => if p.depth ≤ maxDepth then some p.node else none
  | _ => none

end Connector.Regex
