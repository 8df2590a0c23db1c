import Connector.Proofs.Work
import Connector.Scheduler

/-!
# Levels of a scheduler run

Where nobody asks for a stop and no stage sends requests, every job comes to a result that depends
on the functions alone, and a run adds up what its jobs come to.

* `Stage.outputs` — what a stage yields, as a function of the context.
* `ForkingJob.forks`, `ForkingJob.results`, `ForkingJob.failure` — what becomes of one job.
* `SchedulerReport.plus` — what jobs add to a report.
* `Scheduler.generation`, `Scheduler.generations` — the jobs of one level, and of the first levels.
* **`Scheduler.levels_gives`** — a run adds the jobs of all levels to its report, in order.
-/

namespace Connector

open Work

/-! ## Stages -/

namespace Stage

/-- Whether a stage sends no requests. -/
def isLocal : Stage → Bool
  | .http _ => false
  | .split _ | .process _ => true

/-- **What a stage yields** on a context, as a function of the registry. -/
def outputs (functions : Registry) (stage : Stage) (context : Context) :
    Except RunError (List Context) :=
  match stage with
  | .http _ => .ok []
  | .split s => s.contexts context
  | .process p =>
    match (p.run functions context).outcome with
    | .error e => .error e
    | .ok .skipped => .ok []
    | .ok (.ran _) => .ok [(p.run functions context).context]

/-- A stage that is local comes to its outputs, whatever the world. -/
lemma perform_gives (functions : Registry) {stage : Stage} (h : stage.isLocal = true)
    (token : Token) (context : Context) :
    Gives functions (stage.perform token context) (stage.outputs functions context) := by
  cases stage with
  | http request => cases h
  | split s => exact Gives.attempt _
  | process p =>
      refine Gives.bind_get fun w hw => ?_
      rw [hw]
      refine Gives.bind (Gives.say _) ?_
      simp only [outputs]
      rcases (p.run functions context).outcome with e | _ | all
      · exact Gives.fail e
      · exact Gives.bind (Gives.emit _) (Gives.pure _)
      · exact Gives.pure _

end Stage

/-! ## Jobs -/

namespace Forks

variable {functions : Registry}

/-- The children of the outputs of a job, numbered from `n + 1` on. -/
def childrenOf (parent : String) (token : Token) (rest : List Stage) :
    Nat → List Context → List ForkingJob
  | _, [] => []
  | n, context :: outputs =>
    ⟨parent ++ "#" ++ toString (n + 1), context, rest, token.child (n + 1)⟩ ::
      childrenOf parent token rest (n + 1) outputs

/-- A job comes to its end, with no output left. -/
lemma finish_gives {f : Forks} (hf : f.finished = false) (outcome : String) :
    Gives functions (f.finish outcome) (.ok { f with outputs := [], finished := true }) := by
  rw [finish, hf]
  refine Gives.bind (Gives.checkStop _) (Gives.bind (Gives.emit _) ?_)
  exact Gives.bind (Gives.publish _ _) (Gives.pure _)

/-- Every output becomes a child. -/
lemma children_gives (parent : String) (token : Token) {rest : List Stage} (hr : rest ≠ [])
    (outputs : List Context) (n : Nat) :
    Gives functions (Forks.children ⟨parent, token, rest, outputs, n, false⟩)
      (.ok (childrenOf parent token rest n outputs)) := by
  have inner : (List.isEmpty rest) = false := by simpa using hr
  rw [children]
  induction outputs generalizing n with
  | nil =>
      have last : Gives functions (Forks.next ⟨parent, token, rest, [], n, false⟩)
          (.ok (none, ⟨parent, token, rest, [], n, true⟩)) := by
        simp only [next, isLeaf, inner]
        exact Gives.bind (Gives.checkStop _) (Gives.bind (finish_gives rfl _) (Gives.pure _))
      exact Gives.bind last (Gives.pure _)
  | cons context outputs ih =>
      have first : Gives functions (Forks.next ⟨parent, token, rest, context :: outputs, n, false⟩)
          (.ok (some ⟨parent ++ "#" ++ toString (n + 1), context, rest, token.child (n + 1)⟩,
            ⟨parent, token, rest, outputs, n + 1, false⟩)) := by
        simp only [next, isLeaf, inner]
        exact Gives.bind (Gives.checkStop _) (Gives.bind (Gives.emit _) (Gives.pure _))
      exact Gives.bind first (Gives.bind (ih (n + 1)) (Gives.pure _))

/-- The outputs of a leaf are taken as they are. -/
lemma takeOutputs_gives {f : Forks} (hf : f.finished = false) (hl : f.isLeaf = true) :
    Gives functions f.takeOutputs (.ok f.outputs) := by
  rw [takeOutputs, hl]
  exact Gives.bind (Gives.bind (finish_gives hf _) (Gives.pure _)) (Gives.pure _)

end Forks

namespace ForkingJob

variable {functions : Registry}

/-- Whether a job has stages, and all of them are local. -/
def IsLocal (j : ForkingJob) : Prop := j.stages ≠ [] ∧ ∀ stage ∈ j.stages, stage.isLocal = true

/-- What the first stage of a job yields. -/
def outputs (functions : Registry) (j : ForkingJob) : Except RunError (List Context) :=
  match j.stages with
  | [] => .ok []
  | head :: _ => head.outputs functions j.context

lemma outputs_of_stages {j : ForkingJob} {stage : Stage} {rest : List Stage}
    (h : j.stages = stage :: rest) : j.outputs functions = stage.outputs functions j.context := by
  rw [outputs, h]

/-- A job with local stages runs its first one. -/
lemma run_gives {j : ForkingJob} (hj : j.IsLocal) :
    Gives functions j.run ((j.outputs functions).map fun outputs =>
      ⟨j.name, j.token, j.stages.tail, outputs, 0, false⟩) := by
  obtain ⟨name, context, stages, token⟩ := j
  obtain ⟨hne, hl⟩ := hj
  cases stages with
  | nil => exact absurd rfl hne
  | cons head rest =>
      have performed := head.perform_gives functions (hl head (List.mem_cons_self ..))
        (stageToken ⟨name, context, head :: rest, token⟩) context
      refine Gives.bind (Gives.publish _ _) (Gives.bind (Gives.emit _) ?_)
      refine Gives.bind (Gives.checkStop _) (Gives.bind (Gives.publish _ _) ?_)
      refine Gives.bind performed.settle ?_
      simp only [outputs]
      rcases head.outputs functions context with e | outputs
      · exact Gives.bind (Gives.emit _) (Gives.bind (Gives.publish _ _) (Gives.fail e))
      · exact Gives.bind (Gives.checkStop _) (Gives.pure _)

/-- **The children of a job**, none for the last stage of a chain. -/
def forks (functions : Registry) (j : ForkingJob) : List ForkingJob :=
  match j.stages.tail, j.outputs functions with
  | head :: rest, .ok outputs => Forks.childrenOf j.name j.token (head :: rest) 0 outputs
  | _, _ => []

/-- **The results of a job**, which only the last stage of a chain has. -/
def results (functions : Registry) (j : ForkingJob) : List Context :=
  match j.stages.tail, j.outputs functions with
  | [], .ok outputs => outputs
  | _, _ => []

/-- **The failure of a job**, if its stage fails. -/
def failure (functions : Registry) (j : ForkingJob) : Option (String × RunError) :=
  match j.outputs functions with
  | .ok _ => none
  | .error e => some (j.name, e)

/-- A child has the stages that are left, and a token behind that of its parent. -/
lemma of_mem_childrenOf {parent : String} {token : Token} {rest : List Stage} {n : Nat}
    {outputs : List Context} {child : ForkingJob}
    (h : child ∈ Forks.childrenOf parent token rest n outputs) :
    child.stages = rest ∧ ∃ i, child.token = token.child i := by
  induction outputs generalizing n with
  | nil => cases h
  | cons context outputs ih =>
      rcases List.mem_cons.1 h with rfl | h
      · exact ⟨rfl, n + 1, rfl⟩
      · exact ih h

/-- Children go through the stages that are left. -/
lemma IsLocal.forks {j : ForkingJob} (hj : j.IsLocal) :
    ∀ child ∈ j.forks functions, child.IsLocal := by
  intro child h
  rw [ForkingJob.forks] at h
  rcases ht : j.stages.tail with _ | ⟨head, rest⟩
  · rw [ht] at h
    cases h
  · rcases ho : j.outputs functions with e | outputs
    · rw [ht, ho] at h
      cases h
    · rw [ht, ho] at h
      have stages := (of_mem_childrenOf h).1
      refine ⟨stages ▸ List.cons_ne_nil _ _, fun stage hs => hj.2 stage ?_⟩
      rw [stages, ← ht] at hs
      exact List.mem_of_mem_tail hs

end ForkingJob

/-- **What jobs add to a report.** -/
def SchedulerReport.plus (functions : Registry) (report : SchedulerReport)
    (jobs : List ForkingJob) : SchedulerReport where
  executed := report.executed + jobs.length
  forked := report.forked + (jobs.flatMap (·.forks functions)).length
  failures := report.failures ++ jobs.filterMap (·.failure functions)
  outputs := report.outputs ++ jobs.flatMap (·.results functions)
  cancelled := report.cancelled

@[simp] lemma SchedulerReport.plus_nil (functions : Registry) (report : SchedulerReport) :
    report.plus functions [] = report := by
  simp [plus]

lemma SchedulerReport.plus_append (functions : Registry) (report : SchedulerReport)
    (jobs later : List ForkingJob) :
    (report.plus functions jobs).plus functions later = report.plus functions (jobs ++ later) := by
  simp [plus, Nat.add_assoc]

/-! ## Levels -/

namespace Scheduler

variable {functions : Registry} {s : Scheduler}

/-- Where nobody asks for a stop, a scheduler goes on. -/
lemma check_gives (s : Scheduler) (waiting : Bool) (st : SchedulerState) :
    Gives functions (s.check waiting st) (.ok (.goOn, st)) := by
  rw [check]
  refine Gives.bind (Gives.checkStop _) ?_
  rcases s.signal with _ | signal
  · exact Gives.pure _
  · exact Gives.bind (Gives.checkStop _) (Gives.pure _)

lemma relayTo_gives (s : Scheduler) (t : Option Token) :
    Gives functions (s.relayTo t) (.ok ()) :=
  Gives.modify (fun _ => rfl) (fun _ => rfl) fun _ => rfl

lemma queueLate_gives (hl : s.late = none) (st : SchedulerState) :
    Gives functions (s.queueLate st) (.ok st) := by
  refine Gives.bind_get fun w _ => ?_
  rw [hl]
  exact Gives.pure _

/-- The outcome of a job is what it comes to, be it an error. -/
lemma outcome_gives (s : Scheduler) {job : ForkingJob} {r : Except RunError Forks}
    (h : Gives functions job.run r) : Gives functions (s.outcome job) (.ok (some r)) := by
  intro w hw
  obtain ⟨u, hu, hx⟩ := h.settle w hw
  refine ⟨u, hu, ?_⟩
  rw [outcome, hx]
  rfl

/-- What a job that has run leaves: children, or results after the last stage. -/
lemma collect_gives (j : ForkingJob) (outputs : List Context)
    (ho : j.outputs functions = .ok outputs) (st : SchedulerState) :
    Gives functions (collect ⟨j.name, j.token, j.stages.tail, outputs, 0, false⟩ st)
      (.ok { st with
        report := { st.report with
          forked := st.report.forked + (j.forks functions).length
          outputs := st.report.outputs ++ j.results functions }
        queued := st.queued ++ j.forks functions }) := by
  rw [collect, ForkingJob.forks, ForkingJob.results, ho]
  rcases j.stages.tail with _ | ⟨head, rest⟩
  · simp only [List.length_nil, Nat.add_zero, List.append_nil]
    have leaf : Forks.isLeaf ⟨j.name, j.token, [], outputs, 0, false⟩ = true := rfl
    rw [if_pos leaf]
    exact Gives.bind (Forks.takeOutputs_gives rfl rfl) (Gives.pure _)
  · have inner : head :: rest ≠ [] := List.cons_ne_nil _ _
    simp only [List.append_nil]
    have fork : ¬ Forks.isLeaf ⟨j.name, j.token, head :: rest, outputs, 0, false⟩ = true :=
      Bool.false_ne_true
    rw [if_neg fork]
    exact Gives.bind (Forks.children_gives j.name j.token inner outputs 0) (Gives.pure _)

/-- **One job**: it adds what it comes to, and its children queue up. -/
lemma runJob_gives (hl : s.late = none) {job : ForkingJob} (hj : job.IsLocal)
    (report : SchedulerReport) (queued : List ForkingJob) (late : Bool) :
    Gives functions (s.runJob job ⟨report, queued, late⟩)
      (.ok (.goOn, ⟨report.plus functions [job], queued ++ job.forks functions, late⟩)) := by
  refine Gives.bind (relayTo_gives s _) (Gives.bind (outcome_gives s (job.run_gives hj)) ?_)
  refine Gives.bind (relayTo_gives s _) (Gives.bind (queueLate_gives hl _) ?_)
  rcases ho : job.outputs functions with e | outputs
  · have added : report.plus functions [job] = { report with
        executed := report.executed + 1, failures := report.failures ++ [(job.name, e)] } := by
      simp [SchedulerReport.plus, ForkingJob.forks, ForkingJob.results, ForkingJob.failure, ho]
    have none : job.forks functions = [] := by simp [ForkingJob.forks, ho]
    rw [added, none, List.append_nil]
    exact Gives.pure _
  · have added : report.plus functions [job] = { report with
        executed := report.executed + 1
        forked := report.forked + (job.forks functions).length
        outputs := report.outputs ++ job.results functions } := by
      simp [SchedulerReport.plus, ForkingJob.failure, ho]
    rw [added]
    exact Gives.bind (collect_gives job outputs ho _) (Gives.pure _)

/-- **One level**: its jobs run in order, and all their children queue up in order. -/
lemma level_gives (hl : s.late = none) (jobs : List ForkingJob) (hj : ∀ job ∈ jobs, job.IsLocal)
    (report : SchedulerReport) (queued : List ForkingJob) (late : Bool) :
    Gives functions (s.level jobs ⟨report, queued, late⟩) (.ok (.goOn,
      ⟨report.plus functions jobs, queued ++ jobs.flatMap (·.forks functions), late⟩)) := by
  induction jobs generalizing report queued with
  | nil => simpa [level, SchedulerReport.plus] using Gives.pure _
  | cons job rest ih =>
      have here : job.IsLocal := hj job (List.mem_cons_self ..)
      have later := ih (fun j h => hj j (List.mem_cons_of_mem _ h)) (report.plus functions [job])
        (queued ++ job.forks functions)
      rw [SchedulerReport.plus_append, List.append_assoc, ← List.flatMap_cons] at later
      exact Gives.bind (check_gives s _ _) (Gives.bind (runJob_gives hl here _ _ _) later)

/-- **The jobs of a level**, counted from the queue on. -/
def generation (functions : Registry) : Nat → List ForkingJob → List ForkingJob
  | 0, queue => queue
  | n + 1, queue => generation functions n (queue.flatMap (·.forks functions))

/-- The jobs of the first levels, in the order in which they run. -/
def generations (functions : Registry) (n : Nat) (queue : List ForkingJob) : List ForkingJob :=
  (List.range n).flatMap fun i => generation functions i queue

@[simp] lemma generation_nil (n : Nat) : generation functions n [] = [] := by
  induction n with
  | zero => rfl
  | succ n ih => exact ih

/-- One generation more: the children of the one before. -/
lemma generation_succ (n : Nat) (queue : List ForkingJob) :
    generation functions (n + 1) queue =
      (generation functions n queue).flatMap (·.forks functions) := by
  induction n generalizing queue with
  | zero => rfl
  | succ n ih => exact ih (queue.flatMap (·.forks functions))

/-- The jobs of a level come from the roots one after the other. -/
lemma generation_eq_flatMap (n : Nat) (roots : List ForkingJob) :
    generation functions n roots = roots.flatMap fun r => generation functions n [r] := by
  induction n with
  | zero => simp [generation]
  | succ n ih => simp only [generation_succ, ih, List.flatMap_assoc]

/-- The generations of a queue are the queue and the generations of its children. -/
lemma generations_succ (n : Nat) (queue : List ForkingJob) :
    generations functions (n + 1) queue =
      queue ++ generations functions n (queue.flatMap (·.forks functions)) := by
  simp [generations, List.range_succ_eq_map, List.flatMap_map, generation]

/-- **All levels**: the jobs of every level are added to the report. -/
theorem levels_gives (hl : s.late = none) (fuel : Nat) (queue : List ForkingJob)
    (hj : ∀ job ∈ queue, job.IsLocal) (report : SchedulerReport) (late : Bool) :
    Gives functions (s.levels fuel queue report late)
      (.ok (report.plus functions (generations functions fuel queue))) := by
  induction fuel generalizing queue report late with
  | zero => simpa [levels, generations] using Gives.pure report
  | succ fuel ih =>
      rcases queue with _ | ⟨job, rest⟩
      · have nothing : generations functions (fuel + 1) [] = [] := by simp [generations]
        rw [nothing, SchedulerReport.plus_nil]
        exact Gives.bind (check_gives s _ _) (Gives.pure _)
      · have children : ∀ child ∈ (job :: rest).flatMap (·.forks functions), child.IsLocal := by
          intro child h
          obtain ⟨parent, hp, hc⟩ := List.mem_flatMap.1 h
          exact (hj parent hp).forks child hc
        have later := ih _ children (report.plus functions (job :: rest)) late
        rw [SchedulerReport.plus_append, ← generations_succ] at later
        exact Gives.bind (level_gives hl _ hj _ _ _) later

end Scheduler

end Connector
