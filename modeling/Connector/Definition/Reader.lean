import Connector.Definition.Basic
import Connector.Definition.Decoder

/-!
# Reading definitions

How each part of a definition is decoded.  Names that a structure does not know are ignored.

* `Definition.decode` — a definition from a tree.
* `Definition.ofJson`, `Definition.ofText` — a definition from a value or from a text.

Two parts say by a tag what they hold.  A stage has its tag among its members, so all of them are
read before they are decoded; credentials have the tag beside their content, which is decoded on
the spot when the tag comes first.
-/

namespace Connector.Definition

open Decoder

/-- How much is logged. -/
def Logging.decode (o : Origin) : Decoder Logging :=
  decodeStructure o ["level"] fun f => Logging.mk <$> f.withDefault "level" text "INFO"

/-- A proxy. -/
def Proxy.decode (o : Origin) : Decoder Proxy :=
  decodeStructure o ["enabled", "type", "host", "port", "username", "password", "rdns"] fun f =>
    (fun enabled scheme host port username password rdns =>
      ⟨enabled, scheme, host, UInt16.ofNat port, username, password, rdns⟩)
    <$> f.withDefault "enabled" bool false
    <*> f.withDefault "type" text "http"
    <*> f.required "host" text
    <*> f.required "port" (natBelow UInt16.size)
    <*> f.optional "username" text
    <*> f.optional "password" text
    <*> f.withDefault "rdns" bool false

/-- The settings. -/
def Settings.decode (o : Origin) : Decoder Settings :=
  decodeStructure o ["logging", "proxy"] fun f =>
    Settings.mk
    <$> f.withDefault "logging" (Logging.decode o) {}
    <*> f.optional "proxy" (Proxy.decode o)

/-- A task. -/
def Task.decode (o : Origin) : Decoder Task :=
  decodeStructure o ["method", "input", "output"] fun f =>
    Task.mk
    <$> f.required "method" text
    <*> f.withDefault "input" (list text) []
    <*> f.optional "output" text

/-- A condition. -/
def Condition.decode (o : Origin) : Decoder Condition :=
  decodeStructure o ["method", "input"] fun f =>
    Condition.mk <$> f.required "method" text <*> f.withDefault "input" (list text) []

/-- A processor. -/
def Processor.decode (o : Origin) : Decoder Processor :=
  decodeStructure o ["conditions", "pipeline"] fun f =>
    Processor.mk
    <$> f.withDefault "conditions" (list (Condition.decode o)) []
    <*> f.withDefault "pipeline" (list (Task.decode o)) []

/-- A repetition. -/
def Repetition.decode (o : Origin) : Decoder Repetition :=
  decodeStructure o ["type", "stop_conditions"] fun f =>
    Repetition.mk
    <$> f.withDefault "type" text "once"
    <*> f.withDefault "stop_conditions" (list (Condition.decode o)) []

/-- A checkpoint. -/
def Checkpoint.decode (o : Origin) : Decoder Checkpoint :=
  decodeStructure o ["namespace", "content"] fun f =>
    Checkpoint.mk
    <$> f.withDefault "namespace" (list text) []
    <*> f.withDefault "content" (bindings text) .empty

/-! ## Tagged parts -/

/-- How deep a tagged part of a definition text may be nested: the deepest nesting of a text less
the five levels around the part. -/
def taggedDepth : Nat := Source.maxDepth - 5

/-- A tree that is kept for later has to be complete. -/
def keep (o : Origin) (s : Source) : Except DecodeError Unit :=
  match o with
  | .memory => .ok ()
  | .text => if (s.toJson? taggedDepth).isSome then .ok () else .error .notJson

/-- The content of credentials. -/
def Credentials.decodeContent (o : Origin) : Decoder Credentials :=
  decodeStructure o ["username", "password"] fun f =>
    Credentials.mk <$> f.optional "username" text <*> f.optional "password" text

/-- The tag of credentials: there is one kind. -/
def Credentials.checkTag (s : Source) : Except DecodeError Unit := do
  let tag ← text s
  if tag = "basic_auth" then .ok () else .error (.unknownVariant tag)

/-- The next member that is a tag (true) or a content (false), with the members behind it. -/
def nextTagged (whole : Bool) :
    List (String × Source) → Except DecodeError (Option (Bool × Source × List (String × Source)))
  | [] => if whole then .ok none else .error .notJson
  | (k, s) :: rest =>
    if k = "type" then .ok (some (true, s, rest))
    else if k = "options" then .ok (some (false, s, rest))
    else if s.isWhole then nextTagged whole rest
    else .error .notJson

/-- The name of a tag or a content in errors. -/
def taggedName (isTag : Bool) : String := if isTag then "type" else "options"

/-- Neither tag nor content may come again. -/
def noMoreTagged (whole : Bool) (rest : List (String × Source)) : Except DecodeError Unit := do
  match ← nextTagged whole rest with
  | none => .ok ()
  | some (isTag, _, _) => .error (.duplicateField (taggedName isTag))

/-- Credentials as an object. -/
def Credentials.ofMembers (o : Origin) (whole : Bool) (members : List (String × Source)) :
    Except DecodeError Credentials := do
  match ← nextTagged whole members with
  | none => .error (.missingField "type")
  | some (true, tag, rest) =>
    checkTag tag
    match ← nextTagged whole rest with
    | none => .error (.missingField "options")
    | some (true, _, _) => .error (.duplicateField "type")
    | some (false, content, rest) =>
      let c ← decodeContent o content
      noMoreTagged whole rest
      .ok c
  | some (false, content, rest) =>
    keep o content
    match ← nextTagged whole rest with
    | none => .error (.missingField "type")
    | some (false, _, _) => .error (.duplicateField "options")
    | some (true, tag, rest) =>
      checkTag tag
      let c ← decodeContent .memory content
      noMoreTagged whole rest
      .ok c

/-- Credentials as an array of tag and content. -/
def Credentials.ofItems (o : Origin) (whole : Bool) : List Source → Except DecodeError Credentials
  | [] => .error (if whole then .wrongShape else .notJson)
  | tag :: rest => do
    checkTag tag
    match rest with
    | [] => .error (if whole then .wrongShape else .notJson)
    | content :: rest =>
      let c ← decodeContent o content
      if !whole then .error .notJson
      else if rest.isEmpty then .ok c
      else
        match o with
        | .text => .error .notJson
        | .memory => .error .wrongShape

/-- Credentials. -/
def Credentials.decode (o : Origin) : Decoder Credentials
  | .obj members whole => ofMembers o whole members
  | .arr items whole => ofItems o whole items
  | s => .error (mistyped s)

/-- What is sent. -/
def Options.decode (o : Origin) : Decoder Options :=
  decodeStructure o ["url", "method", "headers", "body", "auth"] fun f =>
    Options.mk
    <$> f.required "url" text
    <*> f.withDefault "method" text "GET"
    <*> f.withDefault "headers" (bindings text) .empty
    <*> f.withDefault "body" (bindings text) .empty
    <*> f.optional "auth" (Credentials.decode o)

/-- The fields of a request loop. -/
def Loop.ofFields (o : Origin) (f : Fields) : Located Loop :=
  Loop.mk
  <$> f.required "request" (Options.decode o)
  <*> f.withDefault "pre_process" (Processor.decode o) {}
  <*> f.withDefault "post_process" (Processor.decode o) {}
  <*> f.withDefault "iteration_mode" (Repetition.decode o) {}
  <*> f.optional "checkpoint" (Checkpoint.decode o)

/-- The names of the fields of a named request loop. -/
def loopFields : List String :=
  ["name", "request", "pre_process", "post_process", "iteration_mode", "checkpoint"]

/-- A request. -/
def Request.decode (o : Origin) : Decoder Request :=
  decodeStructure o loopFields fun f => Request.mk <$> f.optional "name" text <*> Loop.ofFields o f

/-- **The three kinds of stages.** -/
inductive Stage.Kind where
  | http
  | split
  | process

/-- The kind that a tag names. -/
def Stage.Kind.decode : Decoder Stage.Kind := fun s => do
  match ← text s with
  | "http" => .ok .http
  | "split" => .ok .split
  | "process" => .ok .process
  | tag => .error (.unknownVariant tag)

/-- A stage of a known kind from its other members. -/
def Stage.decodeKind (kind : Stage.Kind) : Decoder Stage :=
  match kind with
  | .http =>
    decodeStructure .memory loopFields fun f =>
      Stage.http <$> f.required "name" text <*> Loop.ofFields .memory f
  | .split =>
    decodeStructure .memory ["name", "source", "delimiter", "output"] fun f =>
      Stage.split
      <$> f.required "name" text
      <*> f.required "source" text
      <*> f.optional "delimiter" text
      <*> f.required "output" text
  | .process =>
    decodeStructure .memory ["name", "conditions", "pipeline"] fun f =>
      (fun name conditions pipeline => Stage.process name ⟨conditions, pipeline⟩)
      <$> f.required "name" text
      <*> f.withDefault "conditions" (list (Condition.decode .memory)) []
      <*> f.withDefault "pipeline" (list (Task.decode .memory)) []

/-- The tag among the members of a stage, and the other members. -/
def Stage.separate (o : Origin) (whole : Bool) (kind : Option Stage.Kind) :
    List (String × Source) → Except DecodeError (Stage.Kind × List (String × Source))
  | [] =>
    if whole then
      match kind with
      | some kind => .ok (kind, [])
      | none => .error (.missingField "type")
    else .error .notJson
  | (k, s) :: rest =>
    if k = "type" then
      match kind with
      | some _ => .error (.duplicateField "type")
      | none => do
        let kind ← Stage.Kind.decode s
        separate o whole (some kind) rest
    else do
      keep o s
      let (kind, others) ← separate o whole kind rest
      .ok (kind, (k, s) :: others)

/-- Every element of an array is kept for later. -/
def keepAll (o : Origin) (whole : Bool) : List Source → Except DecodeError Unit
  | [] => if whole then .ok () else .error .notJson
  | s :: rest => do
    keep o s
    keepAll o whole rest

/-- **A stage**: an object with a tag, or an array whose first element is the tag. -/
def Stage.decode (o : Origin) : Decoder Stage
  | .obj members whole => do
    let (kind, others) ← separate o whole none members
    decodeKind kind (.obj others true)
  | .arr [] whole => .error (if whole then .missingField "type" else .notJson)
  | .arr (tag :: rest) whole => do
    let kind ← Stage.Kind.decode tag
    keepAll o whole rest
    decodeKind kind (.arr rest true)
  | s => .error (mistyped s)

/-- A job. -/
def Job.decode (o : Origin) : Decoder Job :=
  decodeStructure o ["name", "tasks"] fun f =>
    Job.mk <$> f.required "name" text <*> f.required "tasks" (list (Stage.decode o))

/-! ## Connectors -/

/-- **A definition.** -/
def decode (o : Origin) : Decoder Definition :=
  decodeStructure o ["global_settings", "requests", "jobs"] fun f =>
    Definition.mk
    <$> f.withDefault "global_settings" (Settings.decode o) {}
    <*> f.withDefault "requests" (list (Request.decode o)) []
    <*> f.withDefault "jobs" (list (Job.decode o)) []

/-- **The definition that a value describes.** -/
def ofJson (v : Json) : Except DecodeError Definition := decode .memory (Source.ofJson v)

/-- **The definition that a text describes**; nothing but blanks may follow it. -/
def ofText (s : String) : Except DecodeError Definition :=
  match Source.read s with
  | (tree, closed) =>
    match decode .text tree with
    | .ok d => if closed then .ok d else .error .notJson
    | .error e => .error e

end Connector.Definition
