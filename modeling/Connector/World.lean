import Connector.Event
import Connector.Http.Client
import Connector.Load
import Connector.Token

/-!
# The world that jobs run in

Jobs call functions, send requests, use the checkpoint store, tell events, show states and see
whether they are to stop.  All of that is one value, and a job is a function on it.  The other end
of the network is a list of answers that are given in turn; a stop that comes while a request is
under way is an alarm set to the number of that request; and with every request the store may come
to fail, or to work again.

* `World` — the value.  Lists of what happened grow at their end.
* `Work` — a step that may fail, or wait for an answer that never comes.
* `World.arrive` — a request comes in, and the alarm may ring.
* `World.look` — the next interrupts are heard.
* `emit`, `publish`, `say`, `checkStop` — the steps that everything else is made of.
-/

namespace Connector

/-- **An answer to a request.** -/
inductive Answer where
  | response (r : Http.Response)
  | refusal (e : HttpError)
  /-- No answer, ever. -/
  | silence

/-- **The other end of the network**: given answers, or none at all, so that only requests that
are refused before they are sent come to an end. -/
inductive Network where
  | scripted
  | absent
  deriving DecidableEq

/-- **A stop that is to come while a request is under way.** -/
structure Alarm where
  /-- The number of the request, counted from one. -/
  arrival : Nat
  /-- The tokens that are stopped. -/
  stops : List Token

/-- **The world of a run.** -/
structure World where
  /-- The functions that can be called. -/
  functions : Registry
  network : Network
  /-- The answers still to come; when there is none left, every answer is an empty body. -/
  answers : List Answer
  /-- How many requests have come in. -/
  arrivals : Nat := 0
  sent : List Http.Request := []
  events : List Event := []
  store : Option Store := none
  /-- What is wrong with the store: now, and after each of the requests still to come in. -/
  outages : Nat → Outage := fun _ => {}
  printed : String := ""
  /-- The stops asked for. -/
  stops : List Token := []
  /-- The stops asked for between the looks for a stop: those before the next look come first. -/
  interrupts : List (List Token) := []
  /-- The states shown, by the token of who showed them. -/
  states : List (Token × JobState) := []
  alarm : Option Alarm := none
  /-- The states shown before the alarm rang, once it has. -/
  rung : Option (List (Token × JobState)) := none
  /-- While a job runs for someone, a stop of the first token is passed on to the second. -/
  relay : Option (Token × Token) := none

/-- **Why work does not go on**: an error, or an answer that never comes. -/
inductive Halt where
  | failed (e : RunError)
  | hung

/-- **A step in the world.** -/
abbrev Work := ExceptT Halt (StateM World)

namespace World

/-- The state that a token has shown last. -/
def stateIn (states : List (Token × JobState)) (t : Token) : JobState :=
  match states.reverse.find? fun entry => entry.1 = t with
  | some entry => entry.2
  | none => .idle

/-- The state that a token shows. -/
def state (w : World) (t : Token) : JobState := stateIn w.states t

/-- Whether a token is to stop. -/
def isStopRequested (w : World) (t : Token) : Bool := stopRequested w.stops t

/-- Pass a stop on where a relay says so. -/
def passOn (w : World) : World :=
  match w.relay with
  | some (source, target) =>
    if w.isStopRequested source then { w with stops := w.stops ++ [target] } else w
  | none => w

/-- Ask for stops, and pass them on. -/
def requestStops (ts : List Token) (w : World) : World :=
  ({ w with stops := w.stops ++ ts }).passOn

/-- The alarm rings, unless it has rung before or is set to another arrival. -/
def ring (w : World) : World :=
  match w.alarm, w.rung with
  | some a, none =>
    if a.arrival = w.arrivals then { w with rung := some w.states, stops := w.stops ++ a.stops }
    else w
  | _, _ => w

/-- A request is counted.  The store may come to fail or to work again. -/
def count (r : Http.Request) (w : World) : World :=
  { w with
    arrivals := w.arrivals + 1
    sent := w.sent ++ [r]
    outages := fun n => w.outages (n + 1) }

/-- **A request comes in.**  While it is under way, stops are passed on. -/
def arrive (r : Http.Request) (w : World) : World := (w.count r).ring.passOn

/-- A request comes in and takes the next answer. -/
def exchange (r : Http.Request) (w : World) : World :=
  { w.arrive r with answers := w.answers.drop 1 }

/-- Something is told. -/
def tell (e : Event) (w : World) : World := { w with events := w.events ++ [e] }

/-- A state is shown. -/
def display (t : Token) (s : JobState) (w : World) : World :=
  { w with states := w.states ++ [(t, s)] }

/-- Something is printed. -/
def print (s : String) (w : World) : World := { w with printed := w.printed ++ s }

/-- The store is replaced. -/
def keep (s : Store) (w : World) : World := { w with store := some s }

/-- Hear the interrupts that came since the last look. -/
def look (w : World) : World :=
  { w with stops := w.stops ++ w.interrupts.headD [], interrupts := w.interrupts.tail }

end World

/-! ## Steps -/

/-- Fail with an error. -/
def fail {α : Type} (e : RunError) : Work α := throw (.failed e)

/-- Go on with a result or fail. -/
def attempt {α : Type} (r : Except RunError α) : Work α :=
  match r with
  | .ok v => pure v
  | .error e => fail e

/-- Tell an event. -/
def emit (e : Event) : Work Unit := modify (World.tell e)

/-- Show a state. -/
def publish (t : Token) (s : JobState) : Work Unit := modify (World.display t s)

/-- Print. -/
def say (s : String) : Work Unit := modify (World.print s)

/-- **Look whether a token is to stop.** -/
def checkStop (t : Token) : Work Bool := do
  modify World.look
  return (← get).isStopRequested t

/-- **Run a step and keep its failure as a result**; waiting for ever stays what it is. -/
def settle {α : Type} (step : Work α) : Work (Except RunError α) := fun w =>
  match step w with
  | (.ok v, w) => (.ok (.ok v), w)
  | (.error (.failed e), w) => (.ok (.error e), w)
  | (.error .hung, w) => (.error .hung, w)

end Connector
