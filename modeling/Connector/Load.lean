import Connector.Definition.Basic
import Connector.Options
import Connector.Task
import Connector.Text.Case

/-!
# Loading definitions

A definition is loaded before anything runs: every template is compiled, and what is lacking is
found.  The first thing wrong, in the order of the parts of a definition, is the error.  The fields
of maps have no order of their own; where nothing else is said, they are gone through in the order of
their names.

* `Request` — a loaded request loop.
* `Stage` — a loaded stage of a job.
* `Definition.FieldOrder` — the orders in which the fields of maps are gone through.
* `Definition.Request.load`, `Definition.Stage.load`, `Definition.Job.load` — loading.
-/

namespace Connector

/-- **A loaded request loop.** -/
structure Request where
  name : String
  options : Options
  before : Processor
  after : Processor
  repetition : Repetition
  checkpoint : Option Checkpoint

/-- A rendered value cut into elements, one for each new context. -/
structure Split where
  name : String
  source : Template
  delimiter : Option String
  output : String

/-- **A loaded stage of a job.** -/
inductive Stage where
  | http (request : Request)
  | split (s : Split)
  | process (p : Processor)

/-- The name of a stage. -/
def Stage.name : Stage → String
  | .http r => r.name
  | .split s => s.name
  | .process p => p.label

namespace Definition

/-- Compile a template. -/
def compile (source : String) : Except RunError Template :=
  (Template.compile source).mapError .template

/-- Compile templates in order. -/
def compileAll : List String → Except RunError (List Template)
  | [] => .ok []
  | s :: rest =>
    match compile s with
    | .error e => .error e
    | .ok t => (compileAll rest).map (t :: ·)

/-- Compile the templates of a record, those of the given names first. -/
def compileRecord (b : Bindings String) (order : List String := []) :
    Except RunError (Record Template) :=
  (b.entries.arrange order).mapValuesM compile

/-- Load everything of a list in order. -/
def loadAll {α β : Type} (load : α → Except RunError β) : List α → Except RunError (List β)
  | [] => .ok []
  | x :: rest =>
    match load x with
    | .error e => .error e
    | .ok y => (loadAll load rest).map (y :: ·)

/-- Load a call. -/
def loadCall (function : String) (inputs : List String) : Except RunError Call :=
  if Text.isBlankText function then .error (.config .noFunction)
  else (compileAll inputs).map fun ts => ⟨function, ts⟩

/-- Load a condition. -/
def Condition.load (c : Condition) : Except RunError Connector.Condition :=
  (loadCall c.function c.inputs).map fun call => ⟨call⟩

/-- Load a task; the empty output is none. -/
def Task.load (t : Task) : Except RunError Connector.Task :=
  (loadCall t.function t.inputs).map fun call => ⟨call, t.output.filter fun o => !o.isEmpty⟩

/-- Load a processor under a label. -/
def Processor.load (label : String) (p : Processor) : Except RunError Connector.Processor := do
  let gate ← loadAll Condition.load p.conditions
  let pipeline ← loadAll Task.load p.pipeline
  pure ⟨label, gate, pipeline⟩

/-- **Load a repetition.**  Every kind but `once` needs a stop condition. -/
def Repetition.load (r : Repetition) : Except RunError Connector.Repetition := do
  let gate ← loadAll Condition.load r.stopConditions
  let kind := Text.lower (Text.trim r.kind)
  if kind = "once" ∨ !r.stopConditions.isEmpty then pure ⟨kind, gate⟩
  else .error (.config (.noStopCondition kind))

/-- Load a checkpoint, which has to have content; what is loaded stands in the order of names. -/
def Checkpoint.load (c : Checkpoint) (order : List String := []) :
    Except RunError Connector.Checkpoint :=
  if c.content.entries.isEmpty then .error (.config .noContent)
  else do
    let scope ← compileAll c.scope
    let content ← compileRecord c.content order
    pure ⟨scope, content.sort⟩

/-- A text that is there and not empty. -/
def present? (s : Option String) : Option String := s.filter fun s => !s.isEmpty

/-- Load credentials, which have to be complete. -/
def Credentials.load (c : Credentials) : Except RunError Connector.Credentials :=
  match present? c.username, present? c.password with
  | none, _ => .error (.config .noUsername)
  | some _, none => .error (.config .noPassword)
  | some u, some p => do
    let username ← compile u
    let password ← compile p
    pure ⟨username, password⟩

/-- Load what may be absent. -/
def loadOptional {α β : Type} (load : α → Except RunError β) :
    Option α → Except RunError (Option β)
  | none => .ok none
  | some x => (load x).map some

/-- **The orders of the fields of maps**, which nobody fixes: each is given by the names that come
first, and those that it does not list follow in the order of names. -/
structure FieldOrder where
  /-- The order in which headers are compiled. -/
  headers : List String := []
  /-- The order in which the fields of the body are compiled. -/
  body : List String := []
  /-- The order in which the fields of the content of a checkpoint are compiled. -/
  content : List String := []
  /-- The order in which the loaded headers are rendered. -/
  loadedHeaders : List String := []
  /-- The order in which the loaded fields of the body are rendered. -/
  loadedBody : List String := []

/-- **Load what a request sends**: credentials first, then address, headers and body. -/
def Options.load (o : Options) (order : FieldOrder := {}) : Except RunError Connector.Options := do
  let credentials ← loadOptional Credentials.load o.credentials
  if Text.isBlankText o.url then .error (.config .noUrl)
  else
    let url ← compile o.url
    let headers ← compileRecord o.headers order.headers
    let body ← compileRecord o.body order.body
    pure ⟨url, Text.upper (Text.trim o.method), headers.arrange order.loadedHeaders,
      body.arrange order.loadedBody, credentials⟩

/-- **Load a request loop** under a name. -/
def Loop.load (name : String) (l : Loop) (order : FieldOrder := {}) :
    Except RunError Connector.Request := do
  let options ← l.options.load order
  let before ← l.before.load "pre_process"
  let after ← l.after.load "post_process"
  let repetition ← l.repetition.load
  let checkpoint ← loadOptional (·.load order.content) l.checkpoint
  pure ⟨name, options, before, after, repetition, checkpoint⟩

/-- The name of a request; one without a name is named after its place. -/
def Request.effectiveName (r : Request) (index : Nat) : String :=
  r.name.getD ("request_" ++ toString index)

/-- **Load a request** at its place among the requests. -/
def Request.load (r : Request) (index : Nat) (order : FieldOrder := {}) :
    Except RunError Connector.Request :=
  r.loop.load (r.effectiveName index) order

/-- **Load a stage.** -/
def Stage.load (s : Stage) (order : FieldOrder := {}) : Except RunError Connector.Stage :=
  match s with
  | .http name loop => (loop.load name order).map .http
  | .split name source delimiter output =>
    if output.isEmpty then .error (.config .noOutput)
    else if delimiter = some "" then .error (.config .noDelimiter)
    else (compile source).map fun t => .split ⟨name, t, delimiter, output⟩
  | .process name p => (p.load name).map .process

/-- **Load the stages of a job**, which has to have one. -/
def Job.load (j : Job) : Except RunError (List Connector.Stage) :=
  if j.stages.isEmpty then .error (.config (.noStages j.name))
  else loadAll (·.load) j.stages

end Definition

end Connector
