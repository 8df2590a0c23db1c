import Connector.Record
import Connector.Token

/-!
# Controls and their handles

A running job owns a control, with which it shows its state and sees whether it is to stop.  Others
hold a handle, with which they ask for a stop, see the state and wait for the end of the job.  A
handle outlives its control.

* `Handle` — what a handle knows: the token, the last state shown, whether the control lives, and
  the stops asked for with it.
* `Panel` — the handles of all controls there have been, by their places.
* `Panel.Step`, `Panel.step` — what can be done with controls and handles.
* `Panel.await`, `Panel.stopAnswer` — what waiting ends with and what a stop answers, whatever is
  done meanwhile.
* `Controls` — a panel whose controls have names.
-/

namespace Connector

/-- **A handle**, with the state last shown by its control. -/
structure Handle where
  token : Token
  state : JobState
  /-- Whether the control is still there. -/
  alive : Bool
  /-- How many stops were asked for with it. -/
  asked : Nat
  deriving DecidableEq

namespace Handle

/-- The handle of a new control. -/
def fresh (t : Token) : Handle := ⟨t, .idle, true, 0⟩

/-- The control shows a state; a dropped one shows none. -/
def shows (s : JobState) (h : Handle) : Handle := if h.alive then { h with state := s } else h

/-- The control is dropped. -/
def dropped (h : Handle) : Handle := { h with alive := false }

/-- A stop is asked for. -/
def stopping (h : Handle) : Handle := { h with asked := h.asked + 1 }

/-- **What waiting for a handle ends with**: a terminal state, the last state of a control that is
gone, or nothing as long as neither is the case. -/
def wait? (h : Handle) : Option JobState :=
  if h.state.isTerminal || !h.alive then some h.state else none

/-- **What a stop answers** when nothing is done meanwhile: false only after waiting in vain. -/
def stopAnswer (h : Handle) (block : Bool) : Bool := !block || h.wait?.isSome

end Handle

/-- **The handles of all controls there have been**, each known by its place. -/
structure Panel where
  handles : List Handle

namespace Panel

/-- No controls yet. -/
def empty : Panel := ⟨[]⟩

/-- The tokens that were asked to stop. -/
def stops (p : Panel) : List Token := (p.handles.filter fun h => 0 < h.asked).map (·.token)

/-- Whether a handle's token is reached by a stop. -/
def isStopRequested (p : Panel) (h : Handle) : Bool := stopRequested p.stops h.token

/-- One more control, with a token. -/
def add (t : Token) (p : Panel) : Panel := ⟨p.handles ++ [.fresh t]⟩

/-- A control with a token of its own. -/
def create (p : Panel) : Panel := p.add [p.handles.length]

/-- A control whose token descends from that of another one.  Its place is the number of its token,
so that no two controls come by the same. -/
def descend (parent : Nat) (p : Panel) : Panel :=
  match p.handles[parent]? with
  | none => p
  | some h => p.add (h.token.child p.handles.length)

/-- A control with the token of another one. -/
def share (other : Nat) (p : Panel) : Panel :=
  match p.handles[other]? with
  | none => p
  | some h => p.add h.token

/-- Something is done with one control or its handle. -/
def change (n : Nat) (f : Handle → Handle) (p : Panel) : Panel := ⟨p.handles.modify n f⟩

/-- **What can be done** with controls and handles. -/
inductive Step where
  | create
  | descend (parent : Nat)
  | share (other : Nat)
  | publish (n : Nat) (s : JobState)
  | drop (n : Nat)
  | stop (n : Nat)
  deriving DecidableEq

/-- **One step.** -/
def step (p : Panel) : Step → Panel
  | .create => p.create
  | .descend parent => p.descend parent
  | .share other => p.share other
  | .publish n s => p.change n (Handle.shows s)
  | .drop n => p.change n Handle.dropped
  | .stop n => p.change n Handle.stopping

/-- **Any number of steps.** -/
def after (p : Panel) (steps : List Step) : Panel := steps.foldl step p

/-! ## Waiting

Who waits looks now and then; between the looks anything can be done. -/

/-- What waiting for a handle ends with, if it ends now. -/
def wait? (n : Nat) (p : Panel) : Option JobState := p.handles[n]?.bind Handle.wait?

/-- **A moment of a wait**: something is done, or the one who waits has a look. -/
inductive Moment where
  | step (s : Step)
  | look

/-- What is done in some moments. -/
def Moment.step? : Moment → Option Step
  | .step s => some s
  | .look => none

/-- **What waiting ends with**: the first look that sees an end decides. -/
def await (n : Nat) : List Moment → Panel → Option JobState
  | [], _ => none
  | .step s :: later, p => await n later (p.step s)
  | .look :: later, p =>
    match p.wait? n with
    | some s => some s
    | none => await n later p

/-- **What a stop answers.**  A blocking one has a look at once, and a last one when its time is
up. -/
def stopAnswer (n : Nat) (block : Bool) (meanwhile : List Moment) (p : Panel) : Bool :=
  !block || ((p.step (.stop n)).await n (.look :: meanwhile ++ [.look])).isSome

end Panel

/-! ## Names -/

/-- **Controls with names.** -/
structure Controls where
  panel : Panel
  /-- The places of the controls that have names. -/
  places : Record Nat

namespace Controls

/-- Nothing yet. -/
def empty : Controls := ⟨.empty, []⟩

/-- The handles by name. -/
def handles (c : Controls) : Record Handle :=
  c.places.filterMap fun (name, n) => c.panel.handles[n]?.map fun h => (name, h)

/-- Whether a handle's token is reached by a stop. -/
def isStopRequested (c : Controls) (h : Handle) : Bool := c.panel.isStopRequested h

/-- The place of the control of a name, while it lives. -/
def living? (name : String) (c : Controls) : Option Nat :=
  (Record.get? name c.places).filter fun n => c.panel.handles[n]?.any (·.alive)

/-- Something is done with the control of a name or its handle, if there is one. -/
def act (name : String) (f : Handle → Handle) (c : Controls) : Controls :=
  match Record.get? name c.places with
  | none => c
  | some n => { c with panel := c.panel.change n f }

/-- Drop a control; its handle stays. -/
def drop (name : String) (c : Controls) : Controls := c.act name Handle.dropped

/-- Show a state; a dropped control shows none. -/
def publish (name : String) (s : JobState) (c : Controls) : Controls := c.act name (Handle.shows s)

/-- Ask for a stop. -/
def requestStop (name : String) (c : Controls) : Controls := c.act name Handle.stopping

/-- A new control takes a name.  The one that had the name is dropped. -/
def install (name : String) (new : Panel → Panel) (c : Controls) : Controls :=
  let place := c.panel.handles.length
  let c := ({ c with panel := new c.panel } : Controls).drop name
  { c with places := Record.insert name place c.places }

/-- A control with a token of its own. -/
def create (name : String) (c : Controls) : Controls := c.install name Panel.create

/-- A control whose token descends from another one's; without that one, a token of its own. -/
def descend (name parent : String) (c : Controls) : Controls :=
  match c.living? parent with
  | none => c.create name
  | some n => c.install name (Panel.descend n)

/-- A control with the token of another one; without that one, a token of its own. -/
def share (name other : String) (c : Controls) : Controls :=
  match c.living? other with
  | none => c.create name
  | some n => c.install name (Panel.share n)

end Controls

end Connector
