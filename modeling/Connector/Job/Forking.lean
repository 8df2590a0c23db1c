import Connector.Builtins
import Connector.Job.Loop

/-!
# Forking jobs

A forking job holds a context and a chain of stages.  Running it performs the first stage, which
yields contexts; every one of them becomes a child with the rest of the chain, or a result when
nothing is left of it.

* `Stage.perform` — the contexts that a stage yields.
* `ForkingJob.run` — perform the first stage.
* `Forks` — the children still to come.  They are taken one at a time, and a stop ends them.
* `Forks.finish` — the end of a job, which is told once however it comes about.
-/

namespace Connector

namespace Split

/-- **The elements of a value**: those of an array, the pieces of a text, nothing for null, and any
other value itself. -/
def elements (s : Split) (v : Json) : List Json :=
  match v with
  | .null => []
  | .arr items => items
  | .str text =>
    match s.delimiter with
    | some delimiter => (Builtins.piecesOf delimiter text).map .str
    | none => if text.isEmpty then [] else [.str text]
  | v => [v]

/-- **One context for every element.** -/
def contexts (s : Split) (context : Context) : Except RunError (List Context) :=
  match s.source.render context with
  | .error e => .error (.template e)
  | .ok v => .ok ((s.elements v).map fun element => Record.insert s.output element context)

end Split

namespace Stage

/-- A processor yields its context, or nothing when it was skipped. -/
def performProcess (p : Processor) (context : Context) : Work (List Context) := do
  let result := p.run (← get).functions context
  say result.printed
  match result.outcome with
  | .error e => fail e
  | .ok .skipped =>
    emit (.processorSkipped p.label p.label)
    return []
  | .ok (.ran _) => return [result.context]

/-- **The contexts that a stage yields.**  A request loop yields the context after every response
and stops with the token it is given. -/
def perform (stage : Stage) (token : Token) (context : Context) : Work (List Context) := do
  match stage with
  | .http request =>
    let result ← Loop.run ⟨request.name, request, token⟩ context
    return result.pages
  | .split s => attempt (s.contexts context)
  | .process p => performProcess p context

end Stage

/-- **A job and the stages it has still to go through.** -/
structure ForkingJob where
  name : String
  context : Context
  stages : List Stage
  token : Token

/-- **The children of a job still to come.** -/
structure Forks where
  parent : String
  token : Token
  /-- The stages of every child. -/
  rest : List Stage
  /-- The contexts of the children still to come. -/
  outputs : List Context
  /-- How many children there have been. -/
  produced : Nat
  finished : Bool

namespace Forks

/-- Whether the job went through its last stage, so that its outputs are results. -/
def isLeaf (f : Forks) : Bool := f.rest.isEmpty

/-- How many contexts are still to be handed on. -/
def remaining (f : Forks) : Nat := f.outputs.length

/-- **End a job**, which happens once.  Where a stop was asked for, that is the outcome. -/
def finish (outcome : String) (f : Forks) : Work Forks := do
  if f.finished then return f
  else
    let stopped ← checkStop f.token
    emit (.jobCompleted f.parent (if stopped then "cancelled" else outcome) f.produced)
    publish f.token .stopped
    return { f with outputs := [], finished := true }

/-- The child of a context, the next in turn. -/
def child (f : Forks) (context : Context) : ForkingJob :=
  let number := f.produced + 1
  ⟨f.parent ++ "#" ++ toString number, context, f.rest, f.token.child number⟩

/-- **The next child.**  Where there is none, the job ends. -/
def next (f : Forks) : Work (Option ForkingJob × Forks) := do
  if f.finished then return (none, f)
  else if f.isLeaf then return (none, ← f.finish "completed")
  else if ← checkStop f.token then return (none, ← f.finish "cancelled")
  else
    match f.outputs with
    | [] => return (none, ← f.finish "forked")
    | context :: outputs =>
      let child := f.child context
      emit (.jobForked f.parent child.name)
      return (some child, { f with outputs := outputs, produced := f.produced + 1 })

/-- All children in turn; every one but the end takes a context. -/
def childrenFrom (f : Forks) : Nat → Work (List ForkingJob)
  | 0 => return []
  | n + 1 => do
    match ← f.next with
    | (none, _) => return []
    | (some child, f) => return child :: (← f.childrenFrom n)

/-- **All children that are still to come**, after which the job has ended. -/
def children (f : Forks) : Work (List ForkingJob) := f.childrenFrom (f.outputs.length + 1)

/-- **Let go of the children still to come**, which ends the job. -/
def drop (f : Forks) : Work Unit := do
  discard (f.finish "dropped")

/-- **Take the outputs of a leaf**, which ends the job; the outputs of another job are dropped with
its children. -/
def takeOutputs (f : Forks) : Work (List Context) := do
  if f.isLeaf then
    discard (f.finish "completed")
    return f.outputs
  else
    f.drop
    return []

/-- A job that ends without having gone through its first stage. -/
def ended (parent : String) (token : Token) (outcome : String) : Work Forks :=
  Forks.finish outcome ⟨parent, token, [], [], 0, false⟩

end Forks

namespace ForkingJob

/-- The names of the stages. -/
def stageNames (j : ForkingJob) : List String := j.stages.map Stage.name

/-- The token that stops a stage; children have the tokens behind it. -/
def stageToken (j : ForkingJob) : Token := j.token.child 0

/-- **Run a forking job**: perform its first stage. -/
def run (j : ForkingJob) : Work Forks := do
  publish j.token .running
  emit (.jobStarted j.name)
  match j.stages with
  | [] => Forks.ended j.name j.token "no_tasks"
  | head :: rest =>
    if ← checkStop j.token then Forks.ended j.name j.token "cancelled"
    else
      publish j.token .processing
      match ← settle (head.perform j.stageToken j.context) with
      | .error e =>
        emit (.jobFailed j.name e.message)
        publish j.token .failed
        fail e
      | .ok outputs =>
        if ← checkStop j.token then Forks.ended j.name j.token "cancelled"
        else return ⟨j.name, j.token, rest, outputs, 0, false⟩

end ForkingJob

end Connector
