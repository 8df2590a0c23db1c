import Connector.Json.Basic
import Connector.Text.Split

/-!
# The checkpoint store

Checkpoints are kept in memory under a key made of the fragments of their namespace.

* `namespaceKey` — the key of a namespace: the fragments with slashes between them, and a key of
  its own for the empty namespace.
* `Store` — the contents by key.
* `Outage` — the faults that reading and writing meet while it lasts.
-/

namespace Connector

/-- **Why the store fails.** -/
inductive StoreError where
  | unavailable (why : String)
  | invalidContent (why : String)
  deriving DecidableEq

/-- The message of a failure. -/
def StoreError.message : StoreError → String
  | .unavailable why => "checkpoint store unavailable: " ++ why
  | .invalidContent why => "invalid checkpoint content: " ++ why

/-- The key of the empty namespace. -/
def defaultKey : String := "__default__"

/-- **The key of a namespace.** -/
def namespaceKey (scope : List String) : String :=
  if scope.isEmpty then defaultKey
  else String.ofList (Text.joinWith ['/'] (scope.map String.toList))

/-- **What is wrong with a store at some time**: the faults that reading and writing meet. -/
structure Outage where
  read : Option StoreError := none
  write : Option StoreError := none

/-- **A store.** -/
structure Store where
  entries : Record Context

namespace Store

/-- The content of a namespace. -/
def get (scope : List String) (s : Store) (outage : Outage := {}) :
    Except StoreError (Option Context) :=
  match outage.read with
  | some e => .error e
  | none => .ok (Record.get? (namespaceKey scope) s.entries)

/-- Write the content of a namespace over what was there. -/
def set (scope : List String) (content : Context) (s : Store) (outage : Outage := {}) :
    Except StoreError Store :=
  match outage.write with
  | some e => .error e
  | none => .ok { s with entries := Record.insert (namespaceKey scope) content s.entries }

/-- Remove the content of a namespace. -/
def delete (scope : List String) (s : Store) : Store :=
  { s with entries := Record.erase (namespaceKey scope) s.entries }

/-- The store as a value. -/
def toJson (s : Store) : Json := .obj (Record.mapValues .obj s.entries)

end Store

end Connector
