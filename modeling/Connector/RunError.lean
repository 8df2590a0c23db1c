import Connector.Callable
import Connector.Http.Basic
import Connector.Store
import Connector.Template

/-!
# What goes wrong when connectors are loaded and run

* `ConfigError` — what a definition lacks.
* `RunError` — everything that can end the loading or running of a job.
-/

namespace Connector

/-- **What a definition lacks.** -/
inductive ConfigError where
  | noUrl
  | noUsername
  | noPassword
  | noFunction
  | noContent
  | noStopCondition (kind : String)
  | noStages (job : String)
  | noOutput
  | noDelimiter
  deriving DecidableEq

/-- The message of a lack. -/
def ConfigError.message : ConfigError → String
  | .noUrl => "request url must not be empty"
  | .noUsername => "basic auth requires a username"
  | .noPassword => "basic auth requires a password"
  | .noFunction => "function name must not be empty"
  | .noContent => "checkpoint content must not be empty"
  | .noStopCondition kind =>
    "repeat type '" ++ kind ++ "' requires at least one stop condition"
  | .noStages job => "job '" ++ job ++ "' has no tasks"
  | .noOutput => "split task requires an output name"
  | .noDelimiter => "split delimiter must not be empty"

/-- **Why loading or running ends early.** -/
inductive RunError where
  | config (e : ConfigError)
  | template (e : TemplateError)
  | functionNotFound (name : String)
  /-- A function failed; `output` is the variable that was to get its result. -/
  | call (function : String) (output : Option String) (e : CallError)
  | http (e : HttpError)
  | store (e : StoreError)
  deriving DecidableEq

/-- The message of an error. -/
def RunError.message : RunError → String
  | .config e => "invalid configuration: " ++ e.message
  | .template e => e.message
  | .functionNotFound name => "function not found: " ++ name
  | .call function output e =>
    "task '" ++ function ++ "' (output: " ++ output.getD "-" ++ ") failed: " ++ e.message
  | .http e => "http request failed: " ++ e.message
  | .store e => "checkpoint store error: " ++ e.message

/-- Whether a template lacked a variable. -/
def RunError.isMissingVariable : RunError → Bool
  | .template e => e.isMissing
  | _ => false

end Connector
