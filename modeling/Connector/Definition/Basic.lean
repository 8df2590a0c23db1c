import Connector.Record

/-!
# Definitions

What a connector is before it is loaded: the content of a connector file.  Every text that ends up
in a request, an input or a checkpoint is the source of a template.

* `Definition` — settings, requests and jobs.
* `Definition.Request` — a request with what surrounds it.
* `Definition.Stage` — one stage of a job: a request loop, a split or a processor.
-/

namespace Connector

namespace Definition

/-- How much is logged. -/
structure Logging where
  level : String := "INFO"

/-- A proxy that requests go through. -/
structure Proxy where
  enabled : Bool := false
  scheme : String := "http"
  host : String
  port : UInt16
  username : Option String := none
  password : Option String := none
  resolvesRemotely : Bool := false

/-- What holds for the whole connector. -/
structure Settings where
  logging : Logging := {}
  proxy : Option Proxy := none

/-- A function with the templates of its inputs, and the variable that gets its result. -/
structure Task where
  function : String
  inputs : List String := []
  output : Option String := none

/-- A function with the templates of its inputs; only the truth of its result counts. -/
structure Condition where
  function : String
  inputs : List String := []

/-- Tasks that run if all conditions hold. -/
structure Processor where
  conditions : List Condition := []
  pipeline : List Task := []

/-- Whether a request is repeated, and what ends the repetition. -/
structure Repetition where
  kind : String := "once"
  stopConditions : List Condition := []

/-- What is stored after every response, and where. -/
structure Checkpoint where
  scope : List String := []
  content : Bindings String := .empty

/-- Name and password of basic authentication. -/
structure Credentials where
  username : Option String := none
  password : Option String := none

/-- The parts of a request that are sent. -/
structure Options where
  url : String
  method : String := "GET"
  headers : Bindings String := .empty
  body : Bindings String := .empty
  credentials : Option Credentials := none

/-- What both forms of a request loop share. -/
structure Loop where
  options : Options
  before : Processor := {}
  after : Processor := {}
  repetition : Repetition := {}
  checkpoint : Option Checkpoint := none

/-- **A request** that a connector runs by itself. -/
structure Request where
  name : Option String := none
  loop : Loop

/-- **One stage of a job.** -/
inductive Stage where
  | http (name : String) (loop : Loop)
  | split (name source : String) (delimiter : Option String) (output : String)
  | process (name : String) (processor : Processor)

/-- The name of a stage. -/
def Stage.name : Stage → String
  | .http name _ => name
  | .split name _ _ _ => name
  | .process name _ => name

/-- **A job**: a chain of stages. -/
structure Job where
  name : String
  stages : List Stage

end Definition

/-- **The definition of a connector.** -/
structure Definition where
  settings : Definition.Settings := {}
  requests : List Definition.Request := []
  jobs : List Definition.Job := []

end Connector
