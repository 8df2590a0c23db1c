import Connector.Definition.Decoder
import Connector.Json.Basic

/-!
# Events

While jobs run they tell what happens.  An event is written as an object with one member, whose
name is the kind of the event.

* `Event` — the seven kinds.
* `Event.toJson` — an event as a value.
* `Event.ofJson` — the event that a value describes.
-/

namespace Connector

/-- **What happens while jobs run.** -/
inductive Event where
  | jobStarted (job : String)
  | processorSkipped (job processor : String)
  /-- A response was processed; the context is as it stood then. -/
  | iterationCompleted (job : String) (iteration : Nat) (context : Json)
  | checkpointWritten (job : String) (scope : List String) (content : Json)
  | jobForked (job child : String)
  | jobCompleted (job outcome : String) (iterations : Nat)
  | jobFailed (job error : String)

namespace Event

/-- The job that an event is about. -/
def job : Event → String
  | .jobStarted job => job
  | .processorSkipped job _ => job
  | .iterationCompleted job _ _ => job
  | .checkpointWritten job _ _ => job
  | .jobForked job _ => job
  | .jobCompleted job _ _ => job
  | .jobFailed job _ => job

/-- An event of a kind with its members. -/
def tagged (kind : String) (members : List (String × Json)) : Json := .obj [(kind, .obj members)]

/-- **An event as a value.** -/
def toJson : Event → Json
  | .jobStarted job => tagged "JobStarted" [("job", .str job)]
  | .processorSkipped job processor =>
    tagged "ProcessorSkipped" [("job", .str job), ("processor", .str processor)]
  | .iterationCompleted job iteration context =>
    tagged "IterationCompleted"
      [("context", context), ("iteration", .ofNat iteration), ("job", .str job)]
  | .checkpointWritten job scope content =>
    tagged "CheckpointWritten"
      [("content", content), ("job", .str job), ("namespace", .arr (scope.map .str))]
  | .jobForked job child => tagged "JobForked" [("child", .str child), ("job", .str job)]
  | .jobCompleted job outcome iterations =>
    tagged "JobCompleted"
      [("iterations", .ofNat iterations), ("job", .str job), ("outcome", .str outcome)]
  | .jobFailed job error => tagged "JobFailed" [("error", .str error), ("job", .str job)]

/-! ## Reading -/

open Decoder

/-- Any value. -/
def anyValue : Decoder Json := fun s =>
  match s.toJson? Source.maxDepth with
  | some v => .ok v
  | none => .error .notJson

/-- A count. -/
def count : Decoder Nat := natBelow UInt64.size

/-- How the members of an event are decoded, by its kind. -/
def fields? : String → Option (Decoder Event)
  | "JobStarted" =>
    some <| decodeStructure .memory ["job"] fun f => jobStarted <$> f.required "job" text
  | "ProcessorSkipped" =>
    some <| decodeStructure .memory ["job", "processor"] fun f =>
      processorSkipped <$> f.required "job" text <*> f.required "processor" text
  | "IterationCompleted" =>
    some <| decodeStructure .memory ["job", "iteration", "context"] fun f =>
      iterationCompleted <$> f.required "job" text <*> f.required "iteration" count
        <*> f.required "context" anyValue
  | "CheckpointWritten" =>
    some <| decodeStructure .memory ["job", "namespace", "content"] fun f =>
      checkpointWritten <$> f.required "job" text <*> f.required "namespace" (list text)
        <*> f.required "content" anyValue
  | "JobForked" =>
    some <| decodeStructure .memory ["job", "child"] fun f =>
      jobForked <$> f.required "job" text <*> f.required "child" text
  | "JobCompleted" =>
    some <| decodeStructure .memory ["job", "outcome", "iterations"] fun f =>
      jobCompleted <$> f.required "job" text <*> f.required "outcome" text
        <*> f.required "iterations" count
  | "JobFailed" =>
    some <| decodeStructure .memory ["job", "error"] fun f =>
      jobFailed <$> f.required "job" text <*> f.required "error" text
  | _ => none

/-- **The event that a value describes**: an object with one member, whose value is an object. -/
def ofJson (v : Json) : Except DecodeError Event :=
  match v with
  | .obj [(kind, members)] =>
    match fields? kind with
    | none => .error (.unknownVariant kind)
    | some decode =>
      match members with
      | .obj _ => decode (Source.ofJson members)
      | _ => .error .wrongType
  | .obj _ => .error .wrongValue
  | .str kind => .error (if (fields? kind).isSome then .wrongType else .unknownVariant kind)
  | _ => .error .wrongType

end Event

end Connector
