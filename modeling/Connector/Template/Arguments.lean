import Connector.Template.Operators

/-!
# Arguments

Filters, tests and functions read their arguments one by one.  A null or undefined argument
counts as left out where it may be; named arguments travel together behind the positional ones.

* `Arguments` — what is left to read.
* `Arguments.text`, `Arguments.count`, … — read one argument and go on.
* `Arguments.finish` — nothing may be left.
-/

namespace Connector.Template

/-- **The arguments of a call**, in order. -/
abbrev Arguments := StateT (List Value) (Except Fault)

namespace Arguments

/-- A text that a value is turned into. -/
def textOf (v : Value) : Except Fault String :=
  match v with
  | .str s _ => pure s
  | .named _ => throw .invalidOperation
  | v => if v.isMissing then throw .undefinedValue else pure v.text

/-- A text, which no other value is turned into. -/
def onlyTextOf (v : Value) : Except Fault String :=
  match v with
  | .str s _ => pure s
  | _ => throw .invalidOperation

/-- A truth value. -/
def boolOf (v : Value) : Except Fault Bool :=
  match v with
  | .bool b => pure b
  | _ => throw .invalidOperation

/-- An integer between two bounds. -/
def integerOf (low high : Int) (v : Value) : Except Fault Int :=
  match v.asIndex? with
  | some n => if low ≤ n ∧ n ≤ high then pure n else throw .invalidOperation
  | none => throw .invalidOperation

/-- A count of at most 64 bits. -/
def countOf (v : Value) : Except Fault Nat := do
  return (← integerOf 0 (Nat.pow 2 64 - 1) v).toNat

/-- The next argument, if there is one. -/
def next? : Arguments (Option Value) := do
  match ← get with
  | [] => pure none
  | v :: rest => do
    set rest
    pure (some v)

/-- The next argument. -/
def value : Arguments Value := do
  match ← next? with
  | some v => pure v
  | none => throw .missingArgument

/-- The next argument, read in a certain way. -/
def required (read : Value → Except Fault α) : Arguments α := do
  let v ← value
  liftM (read v)

/-- The next argument, which may be left out. -/
def optional (read : Value → Except Fault α) : Arguments (Option α) := do
  match ← next? with
  | none => pure none
  | some v => if v.isUndefined || v.isNone then pure none else some <$> liftM (read v)

/-- The next argument as a text. -/
def text : Arguments String := required textOf

/-- The next argument as a text, if it is given. -/
def text? : Arguments (Option String) := optional textOf

/-- The next argument as it is, if it is given. -/
def value? : Arguments (Option Value) := optional pure

/-- The next argument as a count. -/
def count : Arguments Nat := required countOf

/-- All arguments that are left. -/
def rest : Arguments (List Value) := do
  let vs ← get
  set ([] : List Value)
  pure vs

/-- Nothing may be left. -/
def finish : Arguments Unit := do
  match ← get with
  | [] => pure ()
  | _ => throw .tooManyArguments

/-- **The named arguments**, which stand behind all others. -/
def named : Arguments (List (String × Value)) := do
  let vs ← get
  match vs.getLast? with
  | some (.named arguments) => do
    set vs.dropLast
    pure arguments
  | _ => pure []

/-- A named argument, if it is given. -/
def namedValue? (read : Value → Except Fault α) (name : String)
    (arguments : List (String × Value)) : Except Fault (Option α) :=
  match arguments.lookup name with
  | none => pure none
  | some v => if v.isUndefined || v.isNone then pure none else some <$> read v

/-- No names beside the known ones. -/
def onlyNames (known : List String) (arguments : List (String × Value)) : Except Fault Unit :=
  if arguments.all fun (name, _) => known.contains name then pure () else throw .tooManyArguments

/-- **Read all arguments of a call.** -/
def read (arguments : List Value) (reader : Arguments α) : Except Fault α :=
  (reader.run arguments).map (·.1)

end Arguments

end Connector.Template
