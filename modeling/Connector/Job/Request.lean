import Connector.Job.Loop

/-!
# Request jobs

A request job runs the loop of one request and reports how it ended.

* `RequestJob.run` — the run, from its first event to its last.
-/

namespace Connector

/-- **A request with the context it starts from.** -/
structure RequestJob where
  request : Request
  context : Context
  token : Token

/-- **What a request job reports.** -/
structure JobReport where
  name : String
  outcome : LoopOutcome
  iterations : Nat
  context : Context

namespace RequestJob

/-- The name of a job is that of its request. -/
def name (j : RequestJob) : String := j.request.name

/-- The loop of the request; a job that is stopped before it starts has none. -/
def loop (j : RequestJob) : Work LoopResult := do
  if ← checkStop j.token then return ⟨.cancelled, j.context, []⟩
  else Loop.run ⟨j.name, j.request, j.token⟩ j.context

/-- **Run a request job.** -/
def run (j : RequestJob) : Work JobReport := do
  emit (.jobStarted j.name)
  match ← settle j.loop with
  | .ok result =>
    emit (.jobCompleted j.name result.outcome.name result.iterations)
    publish j.token .stopped
    return ⟨j.name, result.outcome, result.iterations, result.context⟩
  | .error e =>
    emit (.jobFailed j.name e.message)
    publish j.token .failed
    fail e

end RequestJob

end Connector
