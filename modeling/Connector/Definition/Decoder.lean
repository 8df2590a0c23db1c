import Connector.Json.Source
import Connector.Record

/-!
# Decoding structures

A structure is written as an object, or as an array of its fields in their order.  Members are
visited as they are written, and what is met first decides which error is reported; only then is
it seen which members are missing.

* `DecodeError` — why something is not decoded.
* `Located` — a result whose error knows where it was met; results are combined with `<*>`, and
  the earlier error wins.
* `Fields` — the members of a structure; `Fields.required`, `Fields.optional`,
  `Fields.withDefault` decode one of them.
* `decodeStructure` — a whole structure from its fields.
-/

namespace Connector

/-- **Why something is not decoded.** -/
inductive DecodeError where
  | missingField (name : String)
  | unknownVariant (name : String)
  | duplicateField (name : String)
  | wrongType
  | wrongValue
  | wrongShape
  | notJson
  deriving DecidableEq

/-- The message of an error. -/
def DecodeError.message : DecodeError → String
  | .missingField name => "missing field \x60" ++ name ++ "\x60"
  | .unknownVariant name => "unknown variant \x60" ++ name ++ "\x60"
  | .duplicateField name => "duplicate field \x60" ++ name ++ "\x60"
  | .wrongType => "invalid type"
  | .wrongValue => "invalid value"
  | .wrongShape => "invalid data"
  | .notJson => "invalid json"

/-- **Where a tree comes from**: a text, or a value that has been read before. -/
inductive Origin where
  | text
  | memory
  deriving DecidableEq

/-- A way to decode a tree. -/
abbrev Decoder (α : Type) := Source → Except DecodeError α

namespace Decoder

/-- The error for a tree of another type than the wanted one. -/
def mistyped : Source → DecodeError
  | .broken => .notJson
  | .num none => .notJson
  | _ => .wrongType

/-- A text. -/
def text : Decoder String
  | .str s => .ok s
  | s => .error (mistyped s)

/-- A truth value. -/
def bool : Decoder Bool
  | .bool b => .ok b
  | s => .error (mistyped s)

/-- A whole number below a bound. -/
def natBelow (bound : Nat) : Decoder Nat
  | .num (some (.int n)) => if 0 ≤ n.val ∧ n.val < bound then .ok n.val.toNat else .error .wrongValue
  | s => .error (mistyped s)

/-- A value or null. -/
def option {α : Type} (decode : Decoder α) : Decoder (Option α)
  | .null => .ok none
  | s => (decode s).map some

/-- The elements of an array up to where it breaks off. -/
def items {α : Type} (decode : Decoder α) (whole : Bool) : List Source → Except DecodeError (List α)
  | [] => if whole then .ok [] else .error .notJson
  | s :: rest => do
    let v ← decode s
    let vs ← items decode whole rest
    .ok (v :: vs)

/-- An array. -/
def list {α : Type} (decode : Decoder α) : Decoder (List α)
  | .arr xs whole => items decode whole xs
  | s => .error (mistyped s)

/-- The texts under the names of an object up to where it breaks off. -/
def members {α : Type} (decode : Decoder α) (whole : Bool) :
    List (String × Source) → Except DecodeError (List (String × α))
  | [] => if whole then .ok [] else .error .notJson
  | (k, s) :: rest => do
    let v ← decode s
    let vs ← members decode whole rest
    .ok ((k, v) :: vs)

/-- An object of any names; of two members with one name the later wins. -/
def bindings {α : Type} (decode : Decoder α) : Decoder (Bindings α)
  | .obj ms whole => (members decode whole ms).map Bindings.ofList
  | s => .error (mistyped s)

end Decoder

/-! ## Results that know their place -/

/-- **An error and the place where it was met.** -/
structure DecodeError.Located where
  place : Nat
  why : DecodeError

/-- A result whose error knows its place. -/
def Located (α : Type) : Type := Except DecodeError.Located α

/-- **Both results, or the error that was met first.** -/
def Located.both {α β : Type} (f : Located (α → β)) (x : Located α) : Located β :=
  match f, x with
  | .ok f, .ok x => .ok (f x)
  | .error e, .ok _ => .error e
  | .ok _, .error e => .error e
  | .error e, .error d => .error (if d.place < e.place then d else e)

instance : Applicative Located where
  pure x := .ok x
  seq f x := Located.both f (x ())

/-! ## Fields -/

/-- **The members of a structure.** -/
structure Fields where
  origin : Origin
  members : List (String × Source)
  /-- What is reported for a member that has to be there and is not. -/
  absent : String → DecodeError

namespace Fields

/-- The first member of a name, with its place. -/
def find? (name : String) (place : Nat) : List (String × Source) → Option (Nat × Source)
  | [] => none
  | (k, s) :: rest => if k = name then some (place, s) else find? name (place + 1) rest

/-- A member decoded, or what stands for it when it is absent. -/
def decode {α : Type} (f : Fields) (name : String) (decode : Decoder α) (default : Option α) :
    Located α :=
  match find? name 0 f.members, default with
  | some (place, s), _ =>
    match decode s with
    | .ok v => .ok v
    | .error e => .error ⟨place, e⟩
  | none, some v => .ok v
  | none, none => .error ⟨f.members.length + 1, f.absent name⟩

/-- A member that has to be there. -/
def required {α : Type} (f : Fields) (name : String) (d : Decoder α) : Located α :=
  f.decode name d none

/-- A member that may be absent or null. -/
def optional {α : Type} (f : Fields) (name : String) (d : Decoder α) : Located (Option α) :=
  f.decode name (Decoder.option d) (some none)

/-- A member that has a default. -/
def withDefault {α : Type} (f : Fields) (name : String) (d : Decoder α) (default : α) :
    Located α :=
  f.decode name d (some default)

/-- **What is wrong with the members as such**: a name that comes twice, a break inside a member
that nobody asks for, or a break at the end. -/
def check (known : List String) (whole : Bool) (seen : List String) (place : Nat) :
    List (String × Source) → Located Unit
  | [] => if whole then .ok () else .error ⟨place, .notJson⟩
  | (k, s) :: rest =>
    if known.contains k then
      if seen.contains k then .error ⟨place, .duplicateField k⟩
      else check known whole (k :: seen) (place + 1) rest
    else if s.isWhole then check known whole seen (place + 1) rest
    else .error ⟨place, .notJson⟩

/-- What is wrong with the elements of an array beyond its fields. -/
def checkItems (origin : Origin) (known : List String) (items : List Source) (whole : Bool) :
    Located Unit :=
  if whole then
    if items.length ≤ known.length then .ok ()
    else
      .error ⟨known.length, match origin with
        | .text => .notJson
        | .memory => .wrongShape⟩
  else .error ⟨min items.length known.length, .notJson⟩

end Fields

/-- Forget the place of an error. -/
def Located.result {α : Type} (r : Located α) : Except DecodeError α :=
  match r with
  | .ok v => .ok v
  | .error e => .error e.why

/-- **A structure from its fields**, given their names in order. -/
def decodeStructure {α : Type} (origin : Origin) (known : List String)
    (build : Fields → Located α) : Decoder α
  | .obj members whole =>
    ((fun _ v => v) <$> Fields.check known whole [] 0 members
      <*> build ⟨origin, members, .missingField⟩).result
  | .arr items whole =>
    ((fun _ v => v) <$> Fields.checkItems origin known items whole
      <*> build ⟨origin, known.zip items, fun _ => .wrongShape⟩).result
  | s => .error (Decoder.mistyped s)

end Connector
