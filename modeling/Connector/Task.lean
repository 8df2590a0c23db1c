import Connector.RunError

/-!
# Tasks, conditions and processors

A call names a function and the templates of its inputs.  A task binds the result of its call to a
variable, a condition only looks at its truth, and a processor runs its tasks if all its conditions
hold.

* `Call.perform` — render the inputs in order, find the function, call it.
* `Gate.passes` — conditions in order, up to the first that does not hold.
* `Processor.run` — what a processor does to a context.
* `Repetition.shouldStop` — whether a request is not repeated.

Functions may print.  What was printed is part of every result, also of one that failed.
-/

namespace Connector

/-- **A call**: a function and the templates of its inputs. -/
structure Call where
  function : String
  inputs : List Template

namespace Call

/-- Render templates in order; the first failure is the result. -/
def renderAll (context : Context) : List Template → Except TemplateError (List Json)
  | [] => .ok []
  | t :: rest =>
    match t.render context with
    | .error e => .error e
    | .ok v => (renderAll context rest).map (v :: ·)

/-- **Perform a call** on behalf of a task that binds `output`. -/
def perform (c : Call) (output : Option String) (functions : Registry) (context : Context) :
    Except RunError Reply :=
  match renderAll context c.inputs with
  | .error e => .error (.template e)
  | .ok inputs =>
    match functions.resolve? c.function with
    | none => .error (.functionNotFound c.function)
    | some f => (f inputs).mapError (.call c.function output)

end Call

/-- **A task** binds the result of a call to a variable, if it names one. -/
structure Task where
  call : Call
  output : Option String

namespace Task

/-- The reply of a task's function. -/
def perform (t : Task) (functions : Registry) (context : Context) : Except RunError Reply :=
  t.call.perform t.output functions context

/-- Bind the result of a task in a context. -/
def bind (t : Task) (result : Json) (context : Context) : Context :=
  match t.output with
  | some name => Record.insert name result context
  | none => context

end Task

/-- **A condition** holds if the result of its call is truthy. -/
structure Condition where
  call : Call

/-- The reply of a condition's function. -/
def Condition.evaluate (c : Condition) (functions : Registry) (context : Context) :
    Except RunError Reply :=
  c.call.perform none functions context

/-- **A gate**: conditions that all have to hold. -/
abbrev Gate := List Condition

/-- **Whether a gate passes**, and what its conditions printed.  The first condition that does not
hold or fails decides, and no later one is evaluated. -/
def Gate.passes (functions : Registry) (context : Context) :
    Gate → Except RunError Bool × String
  | [] => (.ok true, "")
  | c :: rest =>
    match c.evaluate functions context with
    | .error e => (.error e, "")
    | .ok reply =>
      if reply.value.truthy then
        let (result, printed) := Gate.passes functions context rest
        (result, reply.printed ++ printed)
      else (.ok false, reply.printed)

/-- **A processor**: tasks behind a gate. -/
structure Processor where
  label : String
  gate : Gate
  pipeline : List Task

namespace Processor

/-- Whether there is nothing to evaluate and nothing to do. -/
def isEmpty (p : Processor) : Bool := p.gate.isEmpty && p.pipeline.isEmpty

/-- **What a processor came to.** -/
inductive Outcome where
  | skipped
  | ran (outputs : Context)

/-- **The result of a run**: how it ended, the context as it was left, and what was printed. -/
structure Result where
  outcome : Except RunError Outcome
  context : Context
  printed : String

/-- Run tasks in order.  Each one sees the outputs of those before it; a failure keeps them in the
context. -/
def runTasks (functions : Registry) : List Task → Context → Context → Result
  | [], context, outputs => ⟨.ok (.ran outputs), context, ""⟩
  | t :: rest, context, outputs =>
    match t.perform functions context with
    | .error e => ⟨.error e, context, ""⟩
    | .ok reply =>
      let result :=
        runTasks functions rest (t.bind reply.value context) (t.bind reply.value outputs)
      { result with printed := reply.printed ++ result.printed }

/-- **Run a processor** in a context. -/
def run (p : Processor) (functions : Registry) (context : Context) : Result :=
  match p.gate.passes functions context with
  | (.error e, printed) => ⟨.error e, context, printed⟩
  | (.ok false, printed) => ⟨.ok .skipped, context, printed⟩
  | (.ok true, printed) =>
    let result := runTasks functions p.pipeline context []
    { result with printed := printed ++ result.printed }

end Processor

/-- **Whether a request is repeated**: not at all for the kind `once`, and else until the stop
gate passes. -/
structure Repetition where
  kind : String
  stopGate : Gate

namespace Repetition

/-- The repetition that is none. -/
def once : Repetition := ⟨"once", []⟩

/-- Whether there is no repetition at all. -/
def isOnce (r : Repetition) : Bool := r.kind = "once"

/-- **Whether to stop**, and what the stop conditions printed. -/
def shouldStop (r : Repetition) (functions : Registry) (context : Context) :
    Except RunError Bool × String :=
  if r.isOnce then (.ok true, "") else r.stopGate.passes functions context

end Repetition

end Connector
