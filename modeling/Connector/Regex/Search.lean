import Connector.Record
import Connector.Regex.CharSet

/-!
# Regular expressions and where they match

A regular expression denotes a function from places in a text to the places where a match may
end, **the preferred one first**: of two alternatives the left one, of a greedy repetition the
longer one.  No place is ever listed twice; a later way to the same place could not lead anywhere
that the earlier one does not lead to.

* `Regex` — the expressions.
* `Spot` — a place in a text, with what the named groups hold on the way there.
* `Regex.ends` — the places where a match from a place may end.
* `Regex.matchesAt`, `Regex.find?` — whether there is a match from a place, and the preferred end
  of the leftmost match.
-/

namespace Connector

/-- **Conditions on a place** that consume nothing. -/
inductive Regex.Anchor where
  | textStart
  | textEnd
  | lineStart
  | lineEnd
  /-- Line ends where a carriage return counts too, and one before a line feed is one with it. -/
  | returnLineStart
  | returnLineEnd
  | word (ascii : Bool)
  | notWord (ascii : Bool)
  | wordStart (ascii : Bool)
  | wordEnd (ascii : Bool)
  | wordStartHalf (ascii : Bool)
  | wordEndHalf (ascii : Bool)
  deriving DecidableEq

/-- **A regular expression.** -/
inductive Regex where
  | empty
  | one (set : CharSet)
  | anchor (a : Regex.Anchor)
  | seq (first second : Regex)
  | either (left right : Regex)
  | named (name : String) (body : Regex)
  /-- At least `least` rounds and at most `most`, if that is given. -/
  | rounds (body : Regex) (least : Nat) (most : Option Nat) (greedy : Bool)

/-- **A place in a text.** -/
structure Spot where
  before : Option Char
  rest : List Char
  index : Nat
  groups : Record String

namespace Spot

/-- The start of a text. -/
def start (text : String) : Spot := ⟨none, text.toList, 0, []⟩

/-- The characters between a place and a later one. -/
def textTo (s t : Spot) : String := String.ofList (s.rest.take (t.index - s.index))

/-- The later place, with the text since the earlier one under a name. -/
def capture (name : String) (s t : Spot) : Spot :=
  ⟨t.before, t.rest, t.index, Record.insert name (s.textTo t) t.groups⟩

/-- The place behind the next character, if that is in a set. -/
def step? (set : CharSet) (s : Spot) : Option Spot :=
  match s.rest with
  | [] => none
  | c :: rest => if set.has c then some ⟨some c, rest, s.index + 1, s.groups⟩ else none

/-- The places without those whose index has come before. -/
def distinctFrom (seen : List Nat) : List Spot → List Spot
  | [] => []
  | s :: rest =>
    if seen.contains s.index then distinctFrom seen rest
    else s :: distinctFrom (s.index :: seen) rest

/-- The places, each index once. -/
def distinct (spots : List Spot) : List Spot :=
  match spots with
  | [] => []
  | [s] => [s]
  | spots => distinctFrom [] spots

end Spot

namespace Regex

/-- Whether there is a character and it belongs to words. -/
def isWord (ascii : Bool) (c : Option Char) : Bool :=
  c.any fun c => if ascii then Text.isAsciiWordChar c else Text.isWordChar c

/-- **Whether a condition holds** between two characters. -/
def Anchor.holds (before after : Option Char) : Anchor → Bool
  | .textStart => before.isNone
  | .textEnd => after.isNone
  | .lineStart => before.isNone || before = some '\n'
  | .lineEnd => after.isNone || after = some '\n'
  | .returnLineStart =>
    before.isNone || before = some '\n' || (before = some '\r' && after ≠ some '\n')
  | .returnLineEnd =>
    after.isNone || after = some '\r' || (after = some '\n' && before ≠ some '\r')
  | .word ascii => isWord ascii before != isWord ascii after
  | .notWord ascii => isWord ascii before == isWord ascii after
  | .wordStart ascii => !isWord ascii before && isWord ascii after
  | .wordEnd ascii => isWord ascii before && !isWord ascii after
  | .wordStartHalf ascii => !isWord ascii before
  | .wordEndHalf ascii => !isWord ascii after

/-! ## Rounds -/

/-- The ends of exactly `n` rounds. -/
def exactly (body : Spot → List Spot) : Nat → Spot → List Spot
  | 0, s => [s]
  | n + 1, s => Spot.distinct ((body s).flatMap (exactly body n))

/-- The ends of up to `n` rounds. -/
def upTo (body : Spot → List Spot) (greedy : Bool) : Nat → Spot → List Spot
  | 0, s => [s]
  | n + 1, s =>
    let further := (body s).flatMap (upTo body greedy n)
    Spot.distinct (if greedy then further ++ [s] else s :: further)

/-- The places where rounds have ended so far and those from which no more rounds are to be
tried. -/
structure Progress where
  seen : List Nat
  ends : List Spot

/-- Go on from the end `s` of a round that began at `origin`: every place is passed once, and a
round that consumed nothing is the last one.  The ends are collected in reverse. -/
def goOn (body : Spot → List Spot) (greedy : Bool) :
    Nat → Nat → Progress → Spot → Progress
  | 0, _, p, _ => p
  | fuel + 1, origin, p, s =>
    if p.seen.contains s.index then p
    else
      let p : Progress := ⟨s.index :: p.seen, p.ends⟩
      if s.index ≤ origin then ⟨p.seen, s :: p.ends⟩
      else if greedy then
        let p := (body s).foldl (goOn body greedy fuel s.index) p
        ⟨p.seen, s :: p.ends⟩
      else (body s).foldl (goOn body greedy fuel s.index) ⟨p.seen, s :: p.ends⟩

/-- The ends of one or more rounds. -/
def onceOrMore (body : Spot → List Spot) (greedy : Bool) (s : Spot) : List Spot :=
  ((body s).foldl (goOn body greedy (s.rest.length + 2) s.index) ⟨[], []⟩).ends.reverse

/-- The ends of any number of rounds. -/
def anyNumber (body : Spot → List Spot) (greedy : Bool) (s : Spot) : List Spot :=
  Spot.distinct
    (if greedy then onceOrMore body greedy s ++ [s] else s :: onceOrMore body greedy s)

/-- The ends of a number of rounds within bounds. -/
def manyRounds (body : Spot → List Spot) (least : Nat) (most : Option Nat) (greedy : Bool)
    (s : Spot) : List Spot :=
  match least, most with
  | 0, none => anyNumber body greedy s
  | n + 1, none => Spot.distinct ((exactly body n s).flatMap (onceOrMore body greedy))
  | n, some m => Spot.distinct ((exactly body n s).flatMap (upTo body greedy (m - n)))

/-! ## Matches -/

/-- **Where a match from a place may end**, the preferred end first. -/
def ends : Regex → Spot → List Spot
  | .empty, s => [s]
  | .one set, s => (s.step? set).toList
  | .anchor a, s => if a.holds s.before s.rest.head? then [s] else []
  | .seq a b, s => Spot.distinct ((a.ends s).flatMap b.ends)
  | .either a b, s => Spot.distinct (a.ends s ++ b.ends s)
  | .named name a, s => (a.ends s).map (s.capture name)
  | .rounds a least most greedy, s => manyRounds a.ends least most greedy s

/-- Whether there is a match from a place. -/
def matchesAt (r : Regex) (s : Spot) : Bool := !(r.ends s).isEmpty

/-- The preferred end of the first match from a place or one of the `n` places behind it. -/
def findFrom (r : Regex) : Nat → Spot → Option Spot
  | 0, s => (r.ends s).head?
  | n + 1, s =>
    match r.ends s with
    | e :: _ => some e
    | [] =>
      match s.rest with
      | [] => none
      | c :: rest => findFrom r n ⟨some c, rest, s.index + 1, s.groups⟩

/-- **The preferred end of the leftmost match** in a text. -/
def find? (r : Regex) (text : String) : Option Spot :=
  let s := Spot.start text
  findFrom r s.rest.length s

/-- Whether there is a match anywhere in a text. -/
def occursIn (r : Regex) (text : String) : Bool := (r.find? text).isSome

end Regex

end Connector
