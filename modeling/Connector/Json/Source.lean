import Connector.Json.Numeral

/-!
# JSON as it stands in a text

A text is read into a tree that keeps what a plain value would lose: members in text order,
repeated names, numbers beyond every double — and the place where the text stops being JSON.  Reading
never fails; a decoder walks the tree in text order and reports whatever it meets first, be it a
wrong shape or the broken place.

* `Source` — the tree.  `whole` is false for an array or object that the text breaks off.
* `Source.read` — the tree of a text.
* `Source.toJson?` — the value, for a tree that is nowhere broken, not too deep, and whose
  numbers all have a value.
* `Source.ofJson` — the tree of a value.
* `Json.parse?` — the value of a text: nothing but blanks may follow it.
-/

namespace Connector

/-- **A value as written.** -/
inductive Source where
  | broken
  | null
  | bool (b : Bool)
  /-- A number, without a value when it is beyond every double. -/
  | num (value? : Option Number)
  | str (s : String)
  | arr (items : List Source) (whole : Bool)
  | obj (members : List (String × Source)) (whole : Bool)
  deriving Inhabited

namespace Source

/-! ## Reading -/

/-- The four blanks between tokens. -/
def isBlank (c : Char) : Bool := c = ' ' || c = '\n' || c = '\t' || c = '\r'

/-- Skip blanks. -/
def skipBlanks (cs : List Char) : List Char := cs.dropWhile isBlank

/-- The value of a hexadecimal digit. -/
def hexValue? (c : Char) : Option Nat :=
  if c.isDigit then some (c.toNat - '0'.toNat)
  else if 'a' ≤ c ∧ c ≤ 'f' then some (c.toNat - 'a'.toNat + 10)
  else if 'A' ≤ c ∧ c ≤ 'F' then some (c.toNat - 'A'.toNat + 10)
  else none

/-- Four hexadecimal digits. -/
def hexUnit? (a b c d : Char) : Option Nat := do
  some (((← hexValue? a) * 16 + (← hexValue? b)) * 256 + (← hexValue? c) * 16 + (← hexValue? d))

/-- The letter escapes. -/
def simpleEscape? : Char → Option Char
  | '"' => some '"'
  | '\\' => some '\\'
  | '/' => some '/'
  | 'b' => some '\x08'
  | 'f' => some '\x0c'
  | 'n' => some '\n'
  | 'r' => some '\r'
  | 't' => some '\t'
  | _ => none

/-- The character of a surrogate pair. -/
def pairChar (high low : Nat) : Char :=
  Char.ofNat (0x10000 + (high - 0xD800) * 0x400 + (low - 0xDC00))

/-- **The characters of a string literal** after its opening quote.  A high surrogate needs its
low half right behind it, and a low half never comes first. -/
def readString? : List Char → Option (List Char × List Char)
  | [] => none
  | '"' :: rest => some ([], rest)
  | '\\' :: 'u' :: a :: b :: c :: d :: rest =>
    match hexUnit? a b c d with
    | none => none
    | some u =>
      if 0xDC00 ≤ u ∧ u ≤ 0xDFFF then none
      else if 0xD800 ≤ u ∧ u ≤ 0xDBFF then
        match rest with
        | '\\' :: 'u' :: a :: b :: c :: d :: rest =>
          match hexUnit? a b c d with
          | none => none
          | some v =>
            if 0xDC00 ≤ v ∧ v ≤ 0xDFFF then
              (readString? rest).map fun (s, r) => (pairChar u v :: s, r)
            else none
        | _ => none
      else (readString? rest).map fun (s, r) => (Char.ofNat u :: s, r)
  | '\\' :: e :: rest =>
    match simpleEscape? e with
    | none => none
    | some c => (readString? rest).map fun (s, r) => (c :: s, r)
  | c :: rest =>
    if c.toNat < 0x20 ∨ c = '\\' then none else (readString? rest).map fun (s, r) => (c :: s, r)

/-- A fixed word, if the text starts with it. -/
def afterWord? (word : List Char) (cs : List Char) : Option (List Char) :=
  if word.isPrefixOf cs then some (cs.drop word.length) else none

/-- The result of reading: what was read, and what follows it unless the text broke inside. -/
abbrev Reading (α : Type) := α × Option (List Char)

mutual

/-- The value at the start of a text.  Every call takes one unit of `fuel`, and the length of the
text bounds the calls. -/
def readValue : Nat → List Char → Reading Source
  | 0, _ => (.broken, none)
  | fuel + 1, cs =>
    match skipBlanks cs with
    | '"' :: rest =>
      match readString? rest with
      | some (s, rest) => (.str (String.ofList s), some rest)
      | none => (.broken, none)
    | '[' :: rest =>
      match skipBlanks rest with
      | ']' :: rest => (.arr [] true, some rest)
      | rest =>
        match readItems fuel rest with
        | (items, some rest) => (.arr items true, some rest)
        | (items, none) => (.arr items false, none)
    | '\x7b' :: rest =>
      match skipBlanks rest with
      | '\x7d' :: rest => (.obj [] true, some rest)
      | rest =>
        match readMembers fuel rest with
        | (members, some rest) => (.obj members true, some rest)
        | (members, none) => (.obj members false, none)
    | rest =>
      match afterWord? ['n', 'u', 'l', 'l'] rest with
      | some rest => (.null, some rest)
      | none =>
        match afterWord? ['t', 'r', 'u', 'e'] rest with
        | some rest => (.bool true, some rest)
        | none =>
          match afterWord? ['f', 'a', 'l', 's', 'e'] rest with
          | some rest => (.bool false, some rest)
          | none =>
            match Numeral.read? rest with
            | some (n, rest) => (.num n.value?, some rest)
            | none => (.broken, none)

/-- The elements of an array up to its closing bracket. -/
def readItems : Nat → List Char → Reading (List Source)
  | 0, _ => ([], none)
  | fuel + 1, cs =>
    match readValue fuel cs with
    | (v, none) => ([v], none)
    | (v, some rest) =>
      match skipBlanks rest with
      | ']' :: rest => ([v], some rest)
      | ',' :: rest =>
        let (items, rest) := readItems fuel rest
        (v :: items, rest)
      | _ => ([v], none)

/-- The members of an object up to its closing brace. -/
def readMembers : Nat → List Char → Reading (List (String × Source))
  | 0, _ => ([], none)
  | fuel + 1, cs =>
    match skipBlanks cs with
    | '"' :: rest =>
      match readString? rest with
      | none => ([], none)
      | some (name, rest) =>
        let name := String.ofList name
        match skipBlanks rest with
        | ':' :: rest =>
          match readValue fuel rest with
          | (v, none) => ([(name, v)], none)
          | (v, some rest) =>
            match skipBlanks rest with
            | '\x7d' :: rest => ([(name, v)], some rest)
            | ',' :: rest =>
              let (members, rest) := readMembers fuel rest
              ((name, v) :: members, rest)
            | _ => ([(name, v)], none)
        | _ => ([(name, .broken)], none)
    | _ => ([], none)

end

/-- **The tree of a text**, and whether only blanks follow it. -/
def read (text : String) : Source × Bool :=
  let cs := text.toList
  match readValue (cs.length + 1) cs with
  | (v, some rest) => (v, (skipBlanks rest).isEmpty)
  | (v, none) => (v, true)

/-! ## Values -/

mutual

/-- The value of a tree with at most `depth` levels of arrays and objects. -/
def toJson? (depth : Nat) : Source → Option Json
  | .broken => none
  | .null => some .null
  | .bool b => some (.bool b)
  | .num value? => value?.map .num
  | .str s => some (.str s)
  | .arr items whole =>
    match depth with
    | 0 => none
    | depth + 1 => if whole then (itemsToJson? depth items).map .arr else none
  | .obj members whole =>
    match depth with
    | 0 => none
    | depth + 1 =>
      if whole then (membersToJson? depth members).map fun ms => .obj (Record.ofList ms) else none

/-- The values of the elements of an array. -/
def itemsToJson? (depth : Nat) : List Source → Option (List Json)
  | [] => some []
  | v :: rest =>
    match toJson? depth v with
    | none => none
    | some w => (itemsToJson? depth rest).map (w :: ·)

/-- The values of the members of an object, in text order. -/
def membersToJson? (depth : Nat) : List (String × Source) → Option (List (String × Json))
  | [] => some []
  | (k, v) :: rest =>
    match toJson? depth v with
    | none => none
    | some w => (membersToJson? depth rest).map ((k, w) :: ·)

end

/-- The deepest nesting that a text may have. -/
def maxDepth : Nat := 127

mutual

/-- **The tree of a value.** -/
def ofJson : Json → Source
  | .null => .null
  | .bool b => .bool b
  | .num n => .num (some n)
  | .str s => .str s
  | .arr items => .arr (ofItems items) true
  | .obj fields => .obj (ofMembers fields) true

/-- The trees of the elements of an array. -/
def ofItems : List Json → List Source
  | [] => []
  | v :: rest => ofJson v :: ofItems rest

/-- The trees of the members of an object. -/
def ofMembers : List (String × Json) → List (String × Source)
  | [] => []
  | (k, v) :: rest => (k, ofJson v) :: ofMembers rest

end

mutual

/-- Whether a tree is nowhere broken. -/
def isWhole : Source → Bool
  | .broken => false
  | .arr items whole => itemsWhole items && whole
  | .obj members whole => membersWhole members && whole
  | .null | .bool _ | .num _ | .str _ => true

/-- Whether no element of an array is broken. -/
def itemsWhole : List Source → Bool
  | [] => true
  | v :: rest => isWhole v && itemsWhole rest

/-- Whether no member of an object is broken. -/
def membersWhole : List (String × Source) → Bool
  | [] => true
  | (_, v) :: rest => isWhole v && membersWhole rest

end

end Source

/-- **The value of a JSON text**, or nothing when the text is not JSON. -/
def Json.parse? (text : String) : Option Json :=
  match Source.read text with
  | (tree, true) => tree.toJson? Source.maxDepth
  | (_, false) => none

end Connector
