import Connector.Job.Forking

/-!
# The scheduler

Forking jobs are run one at a time, first come first served; children queue up behind everything
that is already waiting.  So the queue is worked off in levels: all jobs of a level run before
their children, and the longest chain of stages bounds the number of levels.

* `SchedulerReport` — what a run came to.
* `Scheduler.runJob` — one job, and the children it queues.
* `Scheduler.level`, `Scheduler.levels` — one level, and level after level.
* `Scheduler.run` — the whole run.

Before every job it is seen whether to go on.  A cancellation also reaches the job that is running
and gives it some time to end; the stop signal only keeps further jobs from starting.
-/

namespace Connector

/-- **What a scheduler run came to.** -/
structure SchedulerReport where
  /-- How many jobs ran, successfully or not. -/
  executed : Nat := 0
  /-- How many children were queued. -/
  forked : Nat := 0
  /-- The jobs that failed, with their errors. -/
  failures : List (String × RunError) := []
  /-- The outputs of leaf jobs, in the order in which the jobs ended. -/
  outputs : List Context := []
  /-- Whether the run ended before the queue was empty. -/
  cancelled : Bool := false

/-- **How a scheduler run can be stopped and added to.** -/
structure Scheduler where
  /-- A stop of this token cancels the run. -/
  cancel : Token
  /-- A stop of this token keeps further jobs from starting. -/
  signal : Option Token
  /-- A job that is submitted when the alarm rings. -/
  late : Option ForkingJob

/-- **Where a run stands**: the report so far, the jobs queued behind the present level, and
whether the late job is among them. -/
structure SchedulerState where
  report : SchedulerReport
  queued : List ForkingJob
  lateQueued : Bool

/-- Whether the run goes on. -/
inductive Progress where
  | goOn
  | halt
  deriving DecidableEq

namespace Scheduler

/-- **Whether the next job may start.**  `waiting` says whether there is one. -/
def check (s : Scheduler) (waiting : Bool) (st : SchedulerState) :
    Work (Progress × SchedulerState) := do
  let cancelled := { st with report := { st.report with cancelled := true } }
  if ← checkStop s.cancel then return (.halt, cancelled)
  else
    match s.signal with
    | none => return (.goOn, st)
    | some signal =>
      if ← checkStop signal then return (.halt, if waiting then cancelled else st)
      else return (.goOn, st)

/-- Queue the late job if the alarm has rung. -/
def queueLate (s : Scheduler) (st : SchedulerState) : Work SchedulerState := do
  match s.late, (← get).rung with
  | some job, some _ =>
    if st.lateQueued then return st
    else return { st with queued := st.queued ++ [job], lateQueued := true }
  | _, _ => return st

/-- What a finished job adds: its outputs, or its children to the queue. -/
def collect (forks : Forks) (st : SchedulerState) : Work SchedulerState := do
  let report := st.report
  if forks.isLeaf then
    let outputs ← forks.takeOutputs
    return { st with report := { report with outputs := report.outputs ++ outputs } }
  else
    let children ← forks.children
    return { st with
      report := { report with forked := report.forked + children.length }
      queued := st.queued ++ children }

/-- Pass cancellations of the run on to a job, or to none. -/
def relayTo (s : Scheduler) (job : Option Token) : Work Unit :=
  modify fun w => { w with relay := job.map fun t => (s.cancel, t) }

/-- A job that may never end.  Nothing is the result for one that was cancelled and does not end
in the time it is given. -/
def outcome (s : Scheduler) (job : ForkingJob) : Work (Option (Except RunError Forks)) := fun w =>
  match settle job.run w with
  | (.ok result, w) => (.ok (some result), w)
  | (.error h, w) => if w.isStopRequested s.cancel then (.ok none, w) else (.error h, w)

/-- **Run one job** and take up what it leaves. -/
def runJob (s : Scheduler) (job : ForkingJob) (st : SchedulerState) :
    Work (Progress × SchedulerState) := do
  s.relayTo (some job.token)
  let outcome ← s.outcome job
  s.relayTo none
  let st ← s.queueLate st
  let report := { st.report with executed := st.report.executed + 1 }
  match outcome with
  | none => return (.halt, { st with report := { report with cancelled := true } })
  | some (.error e) =>
    return (.goOn, { st with
      report := { report with failures := report.failures ++ [(job.name, e)] } })
  | some (.ok forks) => return (.goOn, ← collect forks { st with report := report })

/-- **Run the jobs of a level** in order. -/
def level (s : Scheduler) : List ForkingJob → SchedulerState → Work (Progress × SchedulerState)
  | [], st => return (.goOn, st)
  | job :: rest, st => do
    match ← s.check true st with
    | (.halt, st) => return (.halt, st)
    | (.goOn, st) =>
      match ← s.runJob job st with
      | (.halt, st) => return (.halt, st)
      | (.goOn, st) => s.level rest st

/-- **Run level after level** until nothing is queued; `fuel` bounds the number of levels. -/
def levels (s : Scheduler) : Nat → List ForkingJob → SchedulerReport → Bool → Work SchedulerReport
  | 0, _, report, _ => return report
  | _ + 1, [], report, late => do
    let (_, st) ← s.check false ⟨report, [], late⟩
    return st.report
  | fuel + 1, queue, report, late => do
    match ← s.level queue ⟨report, [], late⟩ with
    | (.halt, st) => return st.report
    | (.goOn, st) => s.levels fuel st.queued st.report st.lateQueued

/-- The length of the longest chain of stages. -/
def longestChain (jobs : List ForkingJob) : Nat :=
  jobs.foldl (fun n job => max n job.stages.length) 0

/-- More levels than there can be: the late job may start a chain of its own. -/
def levelBound (s : Scheduler) (queue : List ForkingJob) : Nat :=
  longestChain queue + longestChain s.late.toList + 4

/-- **Run the jobs of a queue** and everything that they fork into. -/
def run (s : Scheduler) (queue : List ForkingJob) : Work SchedulerReport :=
  s.levels (s.levelBound queue) queue {} false

end Scheduler

end Connector
