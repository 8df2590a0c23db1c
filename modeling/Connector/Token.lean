/-!
# Stop tokens and job states

Jobs form a tree, and a stop reaches the subtree of the job that it is asked of.  A token is the
path from the root of the tree to its job, so that a token descends from another one exactly when
the other one is a prefix of it.

* `Token` — a path; `Token.child` goes one step down.
* `stopRequested` — whether one of the stops asked for reaches a token.
* `JobState` — what a job shows of itself; the last two states are terminal.
-/

namespace Connector

/-- **A token**: the path to a job in the tree of jobs. -/
abbrev Token := List Nat

/-- The token of a child. -/
def Token.child (t : Token) (index : Nat) : Token := t ++ [index]

/-- **Whether a stop reaches a token**: it was asked of the token or of one it descends from. -/
def stopRequested (stops : List Token) (t : Token) : Bool := stops.any fun s => s.isPrefixOf t

/-- **The states of a job.** -/
inductive JobState where
  | idle
  | running
  | processing
  | repeating
  | stopped
  | failed
  deriving DecidableEq

/-- Whether a job is over. -/
def JobState.isTerminal : JobState → Bool
  | .stopped | .failed => true
  | _ => false

/-- The name of a state. -/
def JobState.name : JobState → String
  | .idle => "Idle"
  | .running => "Running"
  | .processing => "Processing"
  | .repeating => "Repeating"
  | .stopped => "Stopped"
  | .failed => "Failed"

/-- The state of a name. -/
def JobState.ofName? (name : String) : Option JobState :=
  [idle, running, processing, repeating, stopped, failed].find? fun s => s.name = name

end Connector
