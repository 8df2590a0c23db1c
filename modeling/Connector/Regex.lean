import Connector.Regex.Parser

/-!
# Patterns ready for use

* `Regex.compile` — the expression of a pattern, unless the pattern is malformed or its expression
  would take too much room once every repetition is written out.
* `RegexError` — why a pattern is refused.
* `Regex.footprint` — the room that an expression takes, in bytes.
-/

namespace Connector

/-- **Why a pattern is refused.** -/
inductive RegexError where
  | malformed
  | tooLarge
  deriving DecidableEq

/-- The room that the expression of a pattern may take, in bytes. -/
def Regex.maxFootprint : Nat := 10485760

/-- The message of a refusal. -/
def RegexError.message : RegexError → String
  | .malformed => "regex parse error"
  | .tooLarge =>
    "Compiled regex exceeds size limit of " ++ toString Regex.maxFootprint ++ " bytes."

/-- How many ranges a set has, roughly, and whether it stays within ASCII. -/
def CharSet.breadth : CharSet → Nat × Bool
  | .single c => (1, c.toNat < 0x80)
  | .between _ last => (1, last.toNat < 0x80)
  | .ranges rs => (rs.length, rs.all (·.last < 0x80))
  | .satisfying _ => (770, false)
  | .empty => (0, true)
  | .compl s => (s.breadth.1 + 1, false)
  | .union s t => (s.breadth.1 + t.breadth.1, s.breadth.2 && t.breadth.2)
  | .inter s t => (max s.breadth.1 t.breadth.1, s.breadth.2 || t.breadth.2)
  | .caseless s => (2 * s.breadth.1, s.breadth.2)
  | .asciiCaseless s => (2 * s.breadth.1, s.breadth.2)

/-- The room of a set. -/
def CharSet.footprint (s : CharSet) : Nat :=
  match s with
  | .single c => 32 * c.utf8Size
  | s =>
    match s.breadth with
    | (n, true) => if n ≤ 1 then 32 else 32 + 8 * n
    | (n, false) => 400 + 60 * n

/-- **The room of an expression.** -/
def Regex.footprint : Regex → Nat
  | .empty => 32
  | .one s => s.footprint
  | .anchor _ => 32
  | .seq a b => a.footprint + b.footprint
  | .either a b => a.footprint + b.footprint + 36
  | .named _ a => a.footprint + 64
  | .rounds a least (some most) _ => least * a.footprint + (most - least) * (a.footprint + 36)
  | .rounds a least none _ => max least 1 * a.footprint + 40

/-- **The expression of a pattern**, ready to be searched for. -/
def Regex.compile (pattern : String) : Except RegexError Regex :=
  match Regex.parse? pattern with
  | none => .error .malformed
  | some r => if r.footprint ≤ Regex.maxFootprint then .ok r else .error .tooLarge

end Connector
