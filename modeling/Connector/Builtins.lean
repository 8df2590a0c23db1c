import Connector.Calendar.Parser
import Connector.Calendar.Printer
import Connector.Callable
import Connector.Json.Printer
import Connector.Json.Source
import Connector.Path
import Connector.Regex
import Connector.Text.Case

/-!
# The built-in functions

* `set_var` — its input.
* `regex_match`, `regex_not_match`, `regex_search` — a pattern against the text of a value: at its
  start, or anywhere with what the named groups hold.
* `json_path`, `json_empty`, `json_not_empty`, `lookup` — values inside a value.  A string that
  holds JSON stands for what it holds.
* `is_true` — the truth of a value, where strings say it in words.
* `split_by` — the pieces of a text.
* `time_str2str` — a moment in another format.
* `std_output` — prints values, one a line.

`Builtins.registry` holds all of them under these names.
-/

namespace Connector.Builtins

open Callable (argument textArgument)

/-- A reply that prints nothing. -/
def answer (v : Json) : Reply := ⟨v, ""⟩

/-- The input as it is. -/
def setVar : Callable := fun inputs => do
  pure (answer (← argument inputs 0))

/-! ## Patterns -/

/-- The expression of a pattern that was the first input. -/
def compiled (pattern : String) : Except CallError Regex :=
  (Regex.compile pattern).mapError fun e => .invalidArgument 0 e.message

/-- The pattern that matches where another one does, but at the start of the text only. -/
def anchored (pattern : String) : String := "^(?:" ++ pattern ++ ")"

/-- Whether a text matches a pattern at its start. -/
def matchesStart (inputs : List Json) : Except CallError Bool := do
  let pattern ← textArgument inputs 0
  let source ← argument inputs 1
  let regex ← compiled (anchored pattern)
  pure (regex.occursIn source.text)

/-- Whether a text matches a pattern at its start. -/
def regexMatch : Callable := fun inputs => do
  pure (answer (.bool (← matchesStart inputs)))

/-- Whether a text does not match a pattern at its start. -/
def regexNotMatch : Callable := fun inputs => do
  pure (answer (.bool (!(← matchesStart inputs))))

/-- What the named groups of the leftmost match hold; groups that took no part are left out. -/
def regexSearch : Callable := fun inputs => do
  let pattern ← textArgument inputs 0
  let source ← argument inputs 1
  let regex ← compiled pattern
  match regex.find? source.text with
  | some spot => pure (answer (.obj (Record.mapValues .str spot.groups)))
  | none => pure (answer (.obj []))

/-! ## Values inside values -/

/-- **A string that holds JSON stands for the value it holds**; everything else is as it is. -/
def opened (v : Json) : Json :=
  match v with
  | .str s => (Json.parse? s).getD v
  | v => v

/-- The value that a path selects. -/
def jsonPath : Callable := fun inputs => do
  let source ← argument inputs 0
  let path ← textArgument inputs 1
  pure (answer ((Path.parse path).select (opened source)))

/-- Whether a value, or what an optional path selects in it, is not truthy. -/
def isEmptyAt (inputs : List Json) : Except CallError Bool := do
  let source := opened (← argument inputs 0)
  match (inputs[1]? : Option Json) with
  | some (.str path) =>
    if path.isEmpty then pure (!source.truthy)
    else pure (!((Path.parse path).select source).truthy)
  | _ => pure (!source.truthy)

/-- Whether there is nothing at a path. -/
def jsonEmpty : Callable := fun inputs => do
  pure (answer (.bool (← isEmptyAt inputs)))

/-- Whether there is something at a path. -/
def jsonNotEmpty : Callable := fun inputs => do
  pure (answer (.bool (!(← isEmptyAt inputs))))

/-- The member of an object under the text of a value, or null. -/
def lookup : Callable := fun inputs => do
  let source ← argument inputs 0
  let key ← argument inputs 1
  pure (answer (((opened source).member? key.text).getD .null))

/-! ## Texts -/

/-- The words for truth. -/
def trueWords : List String := ["1", "true", "t", "yes", "y"]

/-- The truth of a value; a string is true if it is one of the words for it. -/
def isTrue : Callable := fun inputs => do
  match ← argument inputs 0 with
  | .str s => pure (answer (.bool (trueWords.contains (Text.lower (Text.trim s)))))
  | v => pure (answer (.bool v.truthy))

/-- **The pieces of a text between delimiters**; the empty text has none. -/
def piecesOf (delimiter source : String) : List String :=
  if source.isEmpty then [] else Text.splitOn delimiter source

/-- The pieces of a text. -/
def splitBy : Callable := fun inputs => do
  let source ← argument inputs 0
  let delimiter ← textArgument inputs 1
  if delimiter.isEmpty then .error (.invalidArgument 1 "delimiter must not be empty")
  else pure (answer (.arr ((piecesOf delimiter source.text).map .str)))

/-- A moment that is written in one format, in another format. -/
def timeText : Callable := fun inputs => do
  let date ← textArgument inputs 0
  let source ← textArgument inputs 1
  let target ← textArgument inputs 2
  match Calendar.Moment.parse? source date with
  | none =>
    .error (.invalidArgument 0 ("'" ++ date ++ "' does not match '" ++ source ++ "'"))
  | some (moment, offset) =>
    match moment.format? offset target with
    | some s => pure (answer (.str s))
    | none => .error (.invalidArgument 2 ("invalid format '" ++ target ++ "'"))

/-- Print values, one a line: the elements of an array or the value itself. -/
def stdOutput : Callable := fun inputs => do
  let values := match ← argument inputs 0 with
    | .arr items => items
    | v => [v]
  pure ⟨.null, String.join (values.map fun v => v.text ++ "\n")⟩

/-- **The built-in functions by name.** -/
def registry : Registry := Record.ofList
  [("set_var", setVar), ("regex_match", regexMatch), ("regex_not_match", regexNotMatch),
    ("regex_search", regexSearch), ("json_path", jsonPath), ("json_empty", jsonEmpty),
    ("json_not_empty", jsonNotEmpty), ("is_true", isTrue), ("split_by", splitBy),
    ("lookup", lookup), ("time_str2str", timeText), ("std_output", stdOutput)]

end Connector.Builtins
