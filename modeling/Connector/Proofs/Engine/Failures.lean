import Connector.Engine
import Connector.Proofs.Load.WellFormed
import Connector.Proofs.Loop.Failures

/-!
# What goes wrong when

What is wrong with a definition is found when it is loaded, and only then: an engine that has been
loaded may fail in many ways, but nothing that fails in a run says that the configuration is wrong.

* `Stage.perform_failsBy`, `ForkingJob.run_failsBy`, `RequestJob.run_failsBy` — the errors of stages
  and jobs.
* `Scheduler.run_blameless` — the failures in the report of a scheduler.
* `Engine.run_blameless` — the errors of an engine's run.
* **`Engine.faults_at_load`** — all about a definition: whether it loads, what the error names if it
  does not, and what runs of it do not fail with if it does.
-/

namespace Connector

open Work

/-- Whether an error says that the configuration is wrong; all errors of loading do. -/
def EngineError.isConfig : EngineError → Bool
  | .emptyConnector | .unknownLevel _ | .load _ _ => true
  | .client _ => false
  | .job _ e => e.isConfig

/-! ## Jobs -/

lemma Split.contexts_blameless (s : Split) (context : Context) : Blameless (s.contexts context) := by
  rw [contexts]
  rcases s.source.render context with e | v
  · exact Blameless.error rfl
  · exact Blameless.ok _

/-- **No stage blames the configuration.** -/
theorem Stage.perform_failsBy (stage : Stage) (token : Token) (context : Context) :
    FailsBy (stage.perform token context) RunError.OfRun := by
  cases stage with
  | http request => exact FailsBy.bind (Loop.run_failsBy _ _) fun _ => FailsBy.pure _
  | split s => exact FailsBy.attempt (s.contexts_blameless context)
  | process p =>
      refine FailsBy.get_bind fun w => FailsBy.bind (FailsBy.modify _) fun _ => ?_
      have ran := p.run_blameless w.functions context
      rcases he : (p.run w.functions context).outcome with e | _ | outputs
      · exact FailsBy.fail (ran e he)
      · exact FailsBy.bind (FailsBy.modify _) fun _ => FailsBy.pure _
      · exact FailsBy.pure _

/-- **No request job blames the configuration.** -/
theorem RequestJob.run_failsBy (j : RequestJob) : FailsBy j.run RunError.OfRun := by
  have loop : FailsBy j.loop RunError.OfRun := by
    refine FailsBy.bind (FailsBy.checkStop _) fun stop => ?_
    cases stop with
    | true => exact FailsBy.pure _
    | false => exact Loop.run_failsBy _ _
  refine FailsBy.bind (FailsBy.modify _) fun _ => FailsBy.settle_bind loop ?_ ?_
  · intro result
    refine FailsBy.bind (FailsBy.modify _) fun _ => ?_
    exact FailsBy.bind (FailsBy.modify _) fun _ => FailsBy.pure _
  · intro e he
    refine FailsBy.bind (FailsBy.modify _) fun _ => ?_
    exact FailsBy.bind (FailsBy.modify _) fun _ => FailsBy.fail he

section Never

/-! What comes after a job has run does not fail at all, so it fails only as is asked. -/

variable {P : RunError → Prop}

namespace Forks

lemma finish_failsBy (f : Forks) (outcome : String) : FailsBy (f.finish outcome) P := by
  rw [finish]
  split_ifs
  · exact FailsBy.pure _
  · refine FailsBy.bind (FailsBy.checkStop _) fun _ => FailsBy.bind (FailsBy.modify _) fun _ => ?_
    exact FailsBy.bind (FailsBy.modify _) fun _ => FailsBy.pure _

/-- To take a child never fails. -/
lemma next_failsBy (f : Forks) : FailsBy f.next P := by
  have ending (outcome : String) : FailsBy (do return (none, ← f.finish outcome) :
      Work (Option ForkingJob × Forks)) P :=
    FailsBy.bind (f.finish_failsBy outcome) fun _ => FailsBy.pure _
  rw [next]
  split_ifs
  · exact FailsBy.pure _
  · exact ending _
  · refine FailsBy.bind (FailsBy.checkStop _) fun stop => ?_
    cases stop with
    | true => exact ending _
    | false =>
        rcases f.outputs with _ | ⟨context, outputs⟩
        · exact ending _
        · exact FailsBy.bind (FailsBy.modify _) fun _ => FailsBy.pure _

lemma childrenFrom_failsBy (n : Nat) (f : Forks) : FailsBy (f.childrenFrom n) P := by
  induction n generalizing f with
  | zero => exact FailsBy.pure _
  | succ n ih =>
      refine FailsBy.bind f.next_failsBy fun x => ?_
      rcases x with ⟨_ | child, g⟩
      · exact FailsBy.pure _
      · exact FailsBy.bind (ih g) fun _ => FailsBy.pure _

lemma takeOutputs_failsBy (f : Forks) : FailsBy f.takeOutputs P := by
  have finished (outcome : String) : FailsBy (discard (f.finish outcome)) P :=
    FailsBy.bind (f.finish_failsBy outcome) fun _ => FailsBy.pure _
  rw [takeOutputs]
  split_ifs
  · exact FailsBy.bind (finished _) fun _ => FailsBy.pure _
  · exact FailsBy.bind (finished _) fun _ => FailsBy.pure _

end Forks

namespace Scheduler

/-- To look at the queue never fails. -/
lemma check_failsBy (s : Scheduler) (waiting : Bool) (st : SchedulerState) :
    FailsBy (s.check waiting st) P := by
  refine FailsBy.bind (FailsBy.checkStop _) fun stop => ?_
  cases stop with
  | true => exact FailsBy.pure _
  | false =>
      rcases s.signal with _ | signal
      · exact FailsBy.pure _
      · refine FailsBy.bind (FailsBy.checkStop _) fun stop => ?_
        cases stop <;> exact FailsBy.pure _

lemma queueLate_failsBy (s : Scheduler) (st : SchedulerState) : FailsBy (s.queueLate st) P := by
  refine FailsBy.get_bind fun w => ?_
  rcases s.late with _ | job
  · exact FailsBy.pure _
  · rcases w.rung with _ | shown
    · exact FailsBy.pure _
    · dsimp only
      split_ifs <;> exact FailsBy.pure _

lemma collect_failsBy (forks : Forks) (st : SchedulerState) : FailsBy (collect forks st) P := by
  rw [collect]
  split_ifs
  · exact FailsBy.bind forks.takeOutputs_failsBy fun _ => FailsBy.pure _
  · exact FailsBy.bind (forks.childrenFrom_failsBy _) fun _ => FailsBy.pure _

/-- A job of the queue never fails the scheduler: its error is kept as its outcome. -/
lemma outcome_failsBy (s : Scheduler) (job : ForkingJob) : FailsBy (s.outcome job) P := by
  intro w e u h
  have kept := FailsBy.settle (P := P) job.run w
  unfold outcome at h
  rcases hw : settle job.run w with ⟨k | r, v⟩ <;> rw [hw] at h
  · dsimp only at h
    split_ifs at h <;> cases h
    exact kept e _ hw
  · cases h

lemma runJob_failsBy (s : Scheduler) (job : ForkingJob) (st : SchedulerState) :
    FailsBy (s.runJob job st) P := by
  refine FailsBy.bind (FailsBy.modify _) fun _ => FailsBy.bind (s.outcome_failsBy job) fun r => ?_
  refine FailsBy.bind (FailsBy.modify _) fun _ => FailsBy.bind (s.queueLate_failsBy st) fun st => ?_
  rcases r with _ | e | forks
  · exact FailsBy.pure _
  · exact FailsBy.pure _
  · exact FailsBy.bind (collect_failsBy forks _) fun _ => FailsBy.pure _

lemma level_failsBy (s : Scheduler) (jobs : List ForkingJob) (st : SchedulerState) :
    FailsBy (s.level jobs st) P := by
  induction jobs generalizing st with
  | nil => exact FailsBy.pure _
  | cons job rest ih =>
      refine FailsBy.bind (s.check_failsBy true st) fun x => ?_
      rcases x with ⟨_ | _, st⟩
      · refine FailsBy.bind (s.runJob_failsBy job st) fun y => ?_
        rcases y with ⟨_ | _, st⟩
        · exact ih st
        · exact FailsBy.pure _
      · exact FailsBy.pure _

/-- A scheduler never fails, by induction on the rounds that it has left. -/
lemma levels_failsBy (s : Scheduler) : ∀ (fuel : Nat) (queue : List ForkingJob)
    (report : SchedulerReport) (late : Bool), FailsBy (s.levels fuel queue report late) P
  | 0, _, _, _ => FailsBy.pure _
  | _ + 1, [], _, _ => FailsBy.bind (s.check_failsBy _ _) fun _ => FailsBy.pure _
  | fuel + 1, job :: rest, report, late => by
      refine FailsBy.bind (s.level_failsBy _ _) fun x => ?_
      rcases x with ⟨_ | _, st⟩
      · exact levels_failsBy s fuel _ _ _
      · exact FailsBy.pure _

end Scheduler

end Never

/-- **No forking job blames the configuration.** -/
theorem ForkingJob.run_failsBy (j : ForkingJob) : FailsBy j.run RunError.OfRun := by
  obtain ⟨name, context, stages, token⟩ := j
  have ended (outcome : String) : FailsBy (Forks.ended name token outcome) RunError.OfRun :=
    Forks.finish_failsBy _ outcome
  refine FailsBy.bind (FailsBy.modify _) fun _ => FailsBy.bind (FailsBy.modify _) fun _ => ?_
  rcases stages with _ | ⟨head, rest⟩
  · exact ended _
  · refine FailsBy.bind (FailsBy.checkStop _) fun stop => ?_
    cases stop with
    | true => exact ended _
    | false =>
        refine FailsBy.bind (FailsBy.modify _) fun _ => ?_
        refine FailsBy.settle_bind (head.perform_failsBy _ context) (fun outputs => ?_) fun e he => ?_
        · refine FailsBy.bind (FailsBy.checkStop _) fun late => ?_
          cases late with
          | true => exact ended _
          | false => exact FailsBy.pure _
        · refine FailsBy.bind (FailsBy.modify _) fun _ => ?_
          exact FailsBy.bind (FailsBy.modify _) fun _ => FailsBy.fail he

/-! ## The failures in a report -/

/-- No failure in a report blames the configuration. -/
def SchedulerReport.Blameless (r : SchedulerReport) : Prop :=
  ∀ failure ∈ r.failures, failure.2.OfRun

namespace Scheduler

lemma check_blameless (s : Scheduler) (waiting : Bool) {st : SchedulerState}
    (h : st.report.Blameless) : Yields (s.check waiting st) fun x => x.2.report.Blameless := by
  refine Yields.after fun stop => ?_
  cases stop with
  | true => exact Yields.pure h
  | false =>
      rcases s.signal with _ | signal
      · exact Yields.pure h
      · refine Yields.after fun stop => ?_
        cases stop <;> cases waiting <;> exact Yields.pure h

lemma queueLate_blameless (s : Scheduler) {st : SchedulerState} (h : st.report.Blameless) :
    Yields (s.queueLate st) fun st => st.report.Blameless := by
  refine Yields.after fun w => ?_
  rcases s.late with _ | job
  · exact Yields.pure h
  · rcases w.rung with _ | shown
    · exact Yields.pure h
    · dsimp only
      split_ifs <;> exact Yields.pure h

lemma collect_blameless (forks : Forks) {st : SchedulerState} (h : st.report.Blameless) :
    Yields (collect forks st) fun st => st.report.Blameless := by
  rw [collect]
  split_ifs
  · exact Yields.after fun _ => Yields.pure h
  · exact Yields.after fun _ => Yields.pure h

/-- The outcome of a job is blameless, as the job is. -/
lemma outcome_blameless (s : Scheduler) (job : ForkingJob) :
    Yields (s.outcome job) fun r => ∀ e, r = some (.error e) → e.OfRun := by
  rintro w r u h e rfl
  have kept := job.run_failsBy.settle_yields w
  unfold outcome at h
  rcases hw : settle job.run w with ⟨k | r, v⟩ <;> rw [hw] at h
  · dsimp only at h
    split_ifs at h <;> cases h
  · cases h
    exact kept _ u hw e rfl

/-- **One job** adds at most its own failure. -/
lemma runJob_blameless (s : Scheduler) (job : ForkingJob) {st : SchedulerState}
    (h : st.report.Blameless) : Yields (s.runJob job st) fun x => x.2.report.Blameless := by
  refine Yields.after fun _ => (s.outcome_blameless job).bind fun r failed => ?_
  refine Yields.after fun _ => (s.queueLate_blameless h).bind fun st h => ?_
  rcases r with _ | e | forks
  · exact Yields.pure h
  · refine Yields.pure fun failure hf => ?_
    rcases List.mem_append.1 hf with hf | hf
    · exact h failure hf
    · obtain rfl := List.mem_singleton.1 hf
      exact failed e rfl
  · refine Yields.bind (P := fun st => st.report.Blameless) ?_ fun _ h => Yields.pure h
    exact collect_blameless forks h

/-- A round over the queue adds blameless failures only. -/
lemma level_blameless (s : Scheduler) (jobs : List ForkingJob) {st : SchedulerState}
    (h : st.report.Blameless) : Yields (s.level jobs st) fun x => x.2.report.Blameless := by
  induction jobs generalizing st with
  | nil => exact Yields.pure h
  | cons job rest ih =>
      refine (s.check_blameless true h).bind fun x hx => ?_
      rcases x with ⟨_ | _, st⟩
      · refine (s.runJob_blameless job hx).bind fun y hy => ?_
        rcases y with ⟨_ | _, st⟩
        · exact ih hy
        · exact Yields.pure hy
      · exact Yields.pure hx

/-- So do all rounds, by induction on how many are left. -/
lemma levels_blameless (s : Scheduler) : ∀ (fuel : Nat) (queue : List ForkingJob)
    {report : SchedulerReport} (late : Bool), report.Blameless →
      Yields (s.levels fuel queue report late) SchedulerReport.Blameless
  | 0, _, _, _, h => Yields.pure h
  | _ + 1, [], _, _, h => (s.check_blameless false h).bind fun _ h => Yields.pure h
  | fuel + 1, job :: rest, report, late, h => by
      refine (s.level_blameless (job :: rest) h).bind fun x hx => ?_
      rcases x with ⟨_ | _, st⟩
      · exact levels_blameless s fuel _ _ hx
      · exact Yields.pure hx

/-- **No failure of a scheduler run blames the configuration.** -/
theorem run_blameless (s : Scheduler) (queue : List ForkingJob) :
    Yields (s.run queue) SchedulerReport.Blameless :=
  s.levels_blameless _ queue _ nofun

end Scheduler

/-! ## Runs of an engine -/

namespace Engine

/-- The requests of an engine fail without blaming the configuration. -/
lemma runRequests_blameless (stop run : Token) (index : Nat) (requests : List Request)
    (context : Context) : Yields (runRequests stop run index requests context) fun r =>
      ∀ error, r = .error error → error.isConfig = false := by
  induction requests generalizing index context with
  | nil => exact Yields.pure nofun
  | cons request rest ih =>
      refine Yields.after fun stopped => ?_
      cases stopped with
      | true => exact Yields.pure nofun
      | false =>
          refine (RequestJob.run_failsBy _).settle_yields.bind fun r failed => ?_
          rcases r with e | report
          · refine Yields.pure ?_
            rintro _ ⟨⟩
            exact failed e rfl
          · refine (ih _ _).bind fun later hl => ?_
            rcases later with e | later
            · exact Yields.pure hl
            · exact Yields.pure nofun

/-- An engine keeps the error of a request as its result. -/
lemma runRequests_failsBy {P : RunError → Prop} (stop run : Token) (index : Nat)
    (requests : List Request) (context : Context) :
    FailsBy (runRequests stop run index requests context) P := by
  induction requests generalizing index context with
  | nil => exact FailsBy.pure _
  | cons request rest ih =>
      refine FailsBy.bind (FailsBy.checkStop _) fun stopped => ?_
      cases stopped with
      | true => exact FailsBy.pure _
      | false =>
          refine FailsBy.bind (FailsBy.settle _) fun r => ?_
          rcases r with e | report
          · exact FailsBy.pure _
          · refine FailsBy.bind (ih _ _) fun later => ?_
            rcases later with e | later
            · exact FailsBy.pure _
            · exact FailsBy.pure _

/-- **What a run does not come to**: an error that blames the configuration, be it the one that
ends the run or one of a job. -/
def RunBlameless : Except Halt (Except EngineError EngineReport) → Prop
  | .ok (.ok report) => ∀ jobs ∈ report.jobs, jobs.Blameless
  | .ok (.error error) => error.isConfig = false
  | .error (.failed _) => False
  | .error .hung => True

lemma run_failsBy {P : RunError → Prop} (e : Engine) (stop run : Token) :
    FailsBy (e.run stop run) P := by
  refine FailsBy.bind (runRequests_failsBy stop run 1 e.requests e.context) fun r => ?_
  rcases r with error | requests
  · exact FailsBy.pure _
  · dsimp only
    split_ifs
    · exact FailsBy.pure _
    · exact FailsBy.bind (FailsBy.checkStop _) fun _ => FailsBy.pure _
    · refine FailsBy.bind (FailsBy.checkStop _) fun stopped => ?_
      cases stopped with
      | true => exact FailsBy.pure _
      | false =>
          refine FailsBy.bind (Scheduler.levels_failsBy _ _ _ _ _) fun jobs => ?_
          exact FailsBy.bind (FailsBy.checkStop _) fun _ => FailsBy.pure _

/-- The result of an engine blames nothing on the configuration. -/
lemma run_yields_blameless (e : Engine) (stop run : Token) :
    Yields (e.run stop run) fun r => RunBlameless (.ok r) := by
  refine (runRequests_blameless stop run 1 e.requests e.context).bind fun r hr => ?_
  rcases r with error | requests
  · exact Yields.pure (hr error rfl)
  · dsimp only
    split_ifs
    · exact Yields.pure nofun
    · exact Yields.after fun _ => Yields.pure nofun
    · refine Yields.after fun stopped => ?_
      cases stopped with
      | true => exact Yields.pure nofun
      | false =>
          refine (Scheduler.run_blameless _ _).bind fun report h => Yields.after fun _ => ?_
          refine Yields.pure ?_
          rintro jobs ⟨⟩
          exact h

/-- **No run of an engine blames the configuration**, whatever its stops and its world. -/
theorem run_blameless (e : Engine) (stop run : Token) (w : World) :
    RunBlameless (e.run stop run w).1 := by
  rcases hw : e.run stop run w with ⟨(error | _) | r, u⟩
  · exact run_failsBy (P := fun _ => False) e stop run w error u hw
  · trivial
  · exact e.run_yields_blameless stop run w r u hw

/-- A loaded engine has the proxy of its definition where that is enabled. -/
lemma proxy_of_load {d : Definition} {context : Context} {e : Engine}
    (h : load d context = .ok e) : e.proxy = (d.settings.proxy.filter (·.enabled)).map proxyOf := by
  have loads : Loads (load d context) := ⟨e, h⟩
  obtain ⟨work, ⟨level, known⟩, -, -⟩ := (loads_iff d context).1 loads
  rw [load_parts work known] at h
  generalize loadRequests 0 d.requests = requests at h
  generalize loadJobs d.jobs = jobs at h
  rcases requests with error | requests
  · cases h
  · rcases jobs with error | jobs <;> cases h
    rfl

/-- **There is a client** exactly if the proxy can be used, where one is enabled; what is wrong else
is not blamed on the configuration. -/
lemma checkProxy_of_load {d : Definition} {context : Context} {e : Engine}
    (h : load d context = .ok e) :
    (e.checkProxy = .ok () ↔
        ∀ p ∈ d.settings.proxy, p.enabled = true → (proxyOf p).isUsable = true) ∧
      ∀ error, e.checkProxy = .error error →
        error = .client .invalidProxy ∧ error.isConfig = false := by
  rw [checkProxy, proxy_of_load h]
  rcases d.settings.proxy with _ | p
  · exact ⟨iff_of_true rfl nofun, nofun⟩
  · rcases on : p.enabled with _ | _
    · have off : (some p).filter (·.enabled) = none := by simp [Option.filter, on]
      rw [off]
      refine ⟨iff_of_true rfl ?_, nofun⟩
      rintro q ⟨⟩ enabled
      cases on.symm.trans enabled
    · have kept : (some p).filter (·.enabled) = some p := by simp [Option.filter, on]
      rw [kept, Option.map_some]
      dsimp only
      split_ifs with usable
      · refine ⟨iff_of_true rfl ?_, nofun⟩
        rintro q ⟨⟩ -
        exact usable
      · refine ⟨iff_of_false nofun fun all => usable (all p rfl on), ?_⟩
        rintro error ⟨⟩
        exact ⟨rfl, rfl⟩

end Engine

/-! ## Definitions -/

/-- **The faults of a definition show when it is loaded**: it loads exactly if it is well-formed, the
error names the first of its parts that is not, and no run of what has been loaded blames it. -/
structure Definition.FaultsAtLoad (d : Definition) (context : Context) : Prop where
  loads : (∃ e, Engine.load d context = .ok e) ↔ d.WellFormed
  request : d.HasWork → d.HasLevel → ∀ before bad after, d.requests = before ++ bad :: after →
    (∀ r ∈ before, r.WellFormed) → ¬ bad.WellFormed → ∃ error, bad.load before.length = .error error ∧
      Engine.load d context = .error (.load (bad.effectiveName before.length) error)
  job : d.HasWork → d.HasLevel → (∀ r ∈ d.requests, r.WellFormed) →
    ∀ before bad after, d.jobs = before ++ bad :: after → (∀ j ∈ before, j.WellFormed) →
      ¬ bad.WellFormed → ∃ error, bad.load = .error error ∧
        Engine.load d context = .error (.load bad.name error)
  /-- A proxy is only looked at when a client is built, and that the client cannot be built is not
  blamed on the configuration. -/
  client : ∀ e, Engine.load d context = .ok e →
    (e.checkProxy = .ok () ↔
        ∀ p ∈ d.settings.proxy, p.enabled = true → (Engine.proxyOf p).isUsable = true) ∧
      ∀ error, e.checkProxy = .error error →
        error = .client .invalidProxy ∧ error.isConfig = false
  runs : ∀ e, Engine.load d context = .ok e →
    ∀ stop run w, Engine.RunBlameless (e.run stop run w).1

/-- **Loading accepts exactly the well-formed definitions**, and what has been loaded never fails
because of its configuration. -/
theorem Engine.faults_at_load (d : Definition) (context : Context) : d.FaultsAtLoad context where
  loads := loads_iff d context
  request work known _ _ _ split good ill := load_request_error work known split good ill
  job work known requests _ _ _ split good ill := load_job_error work known requests split good ill
  client _ h := checkProxy_of_load h
  runs e _ stop run w := e.run_blameless stop run w

/-- The second request has no address, and no name either. -/
example : Engine.load { requests := [⟨some "a", { options := { url := "x" } }⟩,
    ⟨none, { options := { url := " " } }⟩] } [] = .error (.load "request_1" (.config .noUrl)) := rfl

end Connector
