import Connector.CommandLine

/-!
# The program

Reads what a command needs, performs it, and writes what came of it.
-/

open Connector

/-- The content of a file, if it can be read. -/
def contentOf? (path : String) : IO (Option String) :=
  try
    return some (← IO.FS.readFile path)
  catch _ => return none

/-- What the standard input holds, if it can be read. -/
def inputText? : IO (Option String) :=
  try
    return some (← (← IO.getStdin).readToEnd)
  catch _ => return none

/-- Perform a command. -/
def outcomeOf (command : Command) : IO Outcome := do
  let content? ← match command.path? with
    | some path => contentOf? path
    | none => pure none
  match command with
  | .run _ => return command.perform content? (← inputText?)
  | _ => return command.perform content? none

/-- **The program.** -/
def main (args : List String) : IO UInt32 := do
  let outcome ← match Command.ofArguments? args with
    | some command => outcomeOf command
    | none => pure Outcome.misuse
  IO.print outcome.printed
  outcome.notes.forM IO.eprintln
  return outcome.code
