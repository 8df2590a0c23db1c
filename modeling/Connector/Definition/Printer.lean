import Connector.Definition.Basic
import Connector.Json.Basic

/-!
# Writing definitions

Every part of a definition as a value.  Optional parts that are absent are left out, but the two
halves of credentials are always shown.

* `Definition.toJson` — a definition as a value.
-/

namespace Connector.Definition

/-- Members as an object. -/
def object (members : List (String × Json)) : Json := .obj (Record.ofList members)

/-- A member that is left out when it is absent. -/
def whenSome {α : Type} (name : String) (encode : α → Json) : Option α → List (String × Json)
  | some v => [(name, encode v)]
  | none => []

/-- A text or null. -/
def orNull : Option String → Json
  | some s => .str s
  | none => .null

/-- A list as an array. -/
def array {α : Type} (encode : α → Json) (xs : List α) : Json := .arr (xs.map encode)

/-- Texts by name. -/
def texts (b : Bindings String) : Json := .obj (Record.mapValues .str b.entries)

/-- How much is logged. -/
def Logging.toJson (l : Logging) : Json := object [("level", .str l.level)]

/-- A proxy. -/
def Proxy.toJson (p : Proxy) : Json :=
  object ([("enabled", .bool p.enabled), ("type", .str p.scheme), ("host", .str p.host),
      ("port", .ofNat p.port.toNat)]
    ++ whenSome "username" .str p.username ++ whenSome "password" .str p.password
    ++ [("rdns", .bool p.resolvesRemotely)])

/-- The settings. -/
def Settings.toJson (s : Settings) : Json :=
  object ([("logging", s.logging.toJson)] ++ whenSome "proxy" Proxy.toJson s.proxy)

/-- A task. -/
def Task.toJson (t : Task) : Json :=
  object ([("method", .str t.function), ("input", array .str t.inputs)]
    ++ whenSome "output" .str t.output)

/-- A condition. -/
def Condition.toJson (c : Condition) : Json :=
  object [("method", .str c.function), ("input", array .str c.inputs)]

/-- The members of a processor. -/
def Processor.members (p : Processor) : List (String × Json) :=
  [("conditions", array Condition.toJson p.conditions), ("pipeline", array Task.toJson p.pipeline)]

/-- A processor. -/
def Processor.toJson (p : Processor) : Json := object p.members

/-- A repetition. -/
def Repetition.toJson (r : Repetition) : Json :=
  object [("type", .str r.kind), ("stop_conditions", array Condition.toJson r.stopConditions)]

/-- A checkpoint. -/
def Checkpoint.toJson (c : Checkpoint) : Json :=
  object [("namespace", array .str c.scope), ("content", texts c.content)]

/-- Credentials. -/
def Credentials.toJson (c : Credentials) : Json :=
  object [("type", .str "basic_auth"),
    ("options", object [("username", orNull c.username), ("password", orNull c.password)])]

/-- What is sent. -/
def Options.toJson (o : Options) : Json :=
  object ([("url", .str o.url), ("method", .str o.method), ("headers", texts o.headers),
      ("body", texts o.body)]
    ++ whenSome "auth" Credentials.toJson o.credentials)

/-- The members of a request loop. -/
def Loop.members (l : Loop) : List (String × Json) :=
  [("request", l.options.toJson), ("pre_process", l.before.toJson),
      ("post_process", l.after.toJson), ("iteration_mode", l.repetition.toJson)]
    ++ whenSome "checkpoint" Checkpoint.toJson l.checkpoint

/-- A request. -/
def Request.toJson (r : Request) : Json :=
  object (whenSome "name" .str r.name ++ r.loop.members)

/-- A stage. -/
def Stage.toJson : Stage → Json
  | .http name loop => object ([("type", .str "http"), ("name", .str name)] ++ loop.members)
  | .split name source delimiter output =>
    object ([("type", .str "split"), ("name", .str name), ("source", .str source)]
      ++ whenSome "delimiter" .str delimiter ++ [("output", .str output)])
  | .process name processor =>
    object ([("type", .str "process"), ("name", .str name)] ++ processor.members)

/-- A job. -/
def Job.toJson (j : Job) : Json :=
  object [("name", .str j.name), ("tasks", array Stage.toJson j.stages)]

/-- **A definition as a value.** -/
def toJson (d : Definition) : Json :=
  object [("global_settings", d.settings.toJson), ("requests", array Request.toJson d.requests),
    ("jobs", array Job.toJson d.jobs)]

end Connector.Definition
