import Connector.Proofs.Work
import Connector.Scheduler

/-!
# The scheduler as a queue

The levels of a scheduler run are one queue: the job that has waited longest runs next, and its
children go to the end.  This holds in every world, with stops and failures of all kinds.

* `Scheduler.turn`, `WorksOff` — a queue worked off first come, first served.
* `Scheduler.Visit`, `Scheduler.turn_cases` — the job that a turn runs, if it runs one.
* `Scheduler.runJob_front` — a job does the same whatever waits in front of its children.
* `Scheduler.worksOff_level` — a level works off its jobs.
* `Scheduler.Queues`, `Scheduler.level_queues` — what a level queues has shorter chains, so that
  there are levels enough.
* **`Scheduler.run_worksOff`** — a run works off the queue of its jobs.
-/

namespace Connector

open Work

namespace Scheduler

/-- **One turn of the queue.**  It is seen whether to go on, and the job that has waited longest is
taken out and run. -/
def turn (s : Scheduler) (st : SchedulerState) : Work (Progress × SchedulerState) :=
  match st.queued with
  | [] => do
    let (_, st) ← s.check false st
    return (.halt, st)
  | job :: rest => do
    match ← s.check true st with
    | (.halt, st) => return (.halt, st)
    | (.goOn, st) => s.runJob job { st with queued := rest }

/-- **A job that a scheduler runs**, and the world that it is run in. -/
structure Visit where
  job : ForkingJob
  start : World

/-- The world in which a job is run. -/
def relaying (s : Scheduler) (job : ForkingJob) (w : World) : World :=
  { w with relay := some (s.cancel, job.token) }

/-- **The job that a turn runs**: the first one in the queue, unless a stop is seen. -/
def visit? (s : Scheduler) (st : SchedulerState) (w : World) : Option Visit :=
  match st.queued, s.check true st w with
  | job :: _, (.ok (.goOn, _), u) => some ⟨job, s.relaying job u⟩
  | _, _ => none

/-- **A job hangs**: where it is run, it never comes to an end. -/
def Visit.Hangs (v : Visit) : Prop := (v.job.run v.start).1 = .error .hung

/-- **A job overruns its cancellation**: it hangs, and the run has been cancelled by then. -/
def Overruns (s : Scheduler) (v : Visit) : Prop :=
  v.Hangs ∧ (v.job.run v.start).2.isStopRequested s.cancel = true

end Scheduler

/-- The state of a run that is cancelled. -/
def SchedulerState.cancelled (st : SchedulerState) : SchedulerState :=
  { st with report := { st.report with cancelled := true } }

namespace Scheduler

variable {st : SchedulerState} {w : World}

/-- **What a check comes to.**  It looks for stops, once or twice, and then lets the run go on,
cancels it, or ends it where nothing waits. -/
lemma check_cases (s : Scheduler) (waiting : Bool) (st : SchedulerState) (w : World) :
    ∃ u, (u = w.look ∨ u = w.look.look) ∧
      (s.check waiting st w = (.ok (.goOn, st), u) ∨
        s.check waiting st w = (.ok (.halt, st.cancelled), u) ∨
        waiting = false ∧ s.check waiting st w = (.ok (.halt, st), u)) := by
  rw [check, bind_ok (checkStop_apply _ _)]
  cases w.look.isStopRequested s.cancel with
  | true => exact ⟨_, .inl rfl, .inr (.inl rfl)⟩
  | false =>
      rw [if_neg Bool.false_ne_true]
      rcases s.signal with _ | signal
      · exact ⟨_, .inl rfl, .inl rfl⟩
      · dsimp only
        rw [bind_ok (checkStop_apply _ _)]
        cases w.look.look.isStopRequested signal with
        | false => exact ⟨_, .inr rfl, .inl rfl⟩
        | true =>
            cases waiting with
            | true => exact ⟨_, .inr rfl, .inr (.inl rfl)⟩
            | false => exact ⟨_, .inr rfl, .inr (.inr ⟨rfl, rfl⟩)⟩

/-- **A turn runs the job of its visit, or halts the run** before a job starts: because it is
cancelled, or because nothing is left in the queue. -/
lemma turn_cases (s : Scheduler) (st : SchedulerState) (w : World) :
    ∃ u, (u = w.look ∨ u = w.look.look) ∧
      ((s.visit? st w = none ∧ (s.turn st w = (.ok (.halt, st.cancelled), u) ∨
          st.queued = [] ∧ s.turn st w = (.ok (.halt, st), u))) ∨
        ∃ job rest, st.queued = job :: rest ∧ s.visit? st w = some ⟨job, s.relaying job u⟩ ∧
          s.turn st w = s.runJob job { st with queued := rest } u) := by
  rw [turn, visit?]
  rcases st.queued with _ | ⟨job, rest⟩
  · obtain ⟨u, looked, goes | cancelled | ⟨-, ends⟩⟩ := s.check_cases false st w
    · exact ⟨u, looked, .inl ⟨rfl, .inr ⟨rfl, bind_ok goes _⟩⟩⟩
    · exact ⟨u, looked, .inl ⟨rfl, .inl (bind_ok cancelled _)⟩⟩
    · exact ⟨u, looked, .inl ⟨rfl, .inr ⟨rfl, bind_ok ends _⟩⟩⟩
  · obtain ⟨u, looked, goes | cancelled | ⟨none, -⟩⟩ := s.check_cases true st w
    · exact ⟨u, looked, .inr ⟨job, rest, rfl, by rw [goes], bind_ok goes _⟩⟩
    · exact ⟨u, looked, .inl ⟨by rw [cancelled], .inl (bind_ok cancelled _)⟩⟩
    · cases none

end Scheduler

/-- **A queue worked off first come, first served**: turn after turn, until one halts. -/
inductive WorksOff (s : Scheduler) :
    SchedulerState → World → Except Halt SchedulerReport × World → Prop where
  | halts {st st' : SchedulerState} {w u : World} (h : s.turn st w = (.ok (.halt, st'), u)) :
      WorksOff s st w (.ok st'.report, u)
  | breaks {st : SchedulerState} {w u : World} {e : Halt} (h : s.turn st w = (.error e, u)) :
      WorksOff s st w (.error e, u)
  | turns {st st' : SchedulerState} {w u : World} {out : Except Halt SchedulerReport × World}
      (h : s.turn st w = (.ok (.goOn, st'), u)) (hw : WorksOff s st' u out) : WorksOff s st w out

/-- There is one way to work off a queue. -/
lemma WorksOff.unique {s : Scheduler} {st : SchedulerState} {w : World}
    {out out' : Except Halt SchedulerReport × World} (h : WorksOff s st w out)
    (h' : WorksOff s st w out') : out = out' := by
  induction h with
  | halts h =>
      cases h' with
      | halts h' => cases h.symm.trans h'; rfl
      | breaks h' => cases h.symm.trans h'
      | turns h' => cases h.symm.trans h'
  | breaks h =>
      cases h' with
      | halts h' => cases h.symm.trans h'
      | breaks h' => cases h.symm.trans h'; rfl
      | turns h' => cases h.symm.trans h'
  | turns h _ ih =>
      cases h' with
      | halts h' => cases h.symm.trans h'
      | breaks h' => cases h.symm.trans h'
      | turns h' hw' =>
          cases h.symm.trans h'
          exact ih hw'

/-! ## Chains -/

namespace Forks

/-- The end of a job changes neither its stages nor its number of children. -/
lemma finish_yields (f : Forks) (outcome : String) : Yields (f.finish outcome) fun g =>
    g.rest = f.rest ∧ g.token = f.token ∧ g.produced = f.produced := by
  rw [finish]
  split_ifs
  · exact Yields.pure ⟨rfl, rfl, rfl⟩
  · refine Yields.after fun _ => Yields.after fun _ => Yields.after fun _ => ?_
    exact Yields.pure ⟨rfl, rfl, rfl⟩

/-- **What taking a child leaves.**  A child has the stages that are left, and the next number. -/
structure Takes (f : Forks) (x : Option ForkingJob × Forks) : Prop where
  rest : x.2.rest = f.rest
  token : x.2.token = f.token
  kept : x.1 = none → x.2.produced = f.produced
  child (c : ForkingJob) : x.1 = some c → f.rest ≠ [] ∧ c.stages = f.rest ∧
    c.token = f.token.child (f.produced + 1) ∧ x.2.produced = f.produced + 1

/-- What a child takes along, where there is one. -/
lemma next_yields (f : Forks) : Yields f.next f.Takes := by
  have ending (outcome : String) : Yields (do return (none, ← f.finish outcome) :
      Work (Option ForkingJob × Forks)) f.Takes :=
    (f.finish_yields outcome).bind fun g ⟨rest, token, number⟩ =>
      Yields.pure ⟨rest, token, fun _ => number, nofun⟩
  rw [next]
  split_ifs with finished leaf
  · exact Yields.pure ⟨rfl, rfl, fun _ => rfl, nofun⟩
  · exact ending _
  · have inner : f.rest ≠ [] := by simpa [isLeaf] using leaf
    refine Yields.after fun stopped => ?_
    cases stopped with
    | true => exact ending _
    | false =>
        rcases f.outputs with _ | ⟨context, outputs⟩
        · exact ending _
        · refine Yields.after fun _ => Yields.pure ⟨rfl, rfl, nofun, ?_⟩
          rintro _ ⟨⟩
          exact ⟨inner, rfl, rfl, rfl⟩

/-- All children have the stages behind the first. -/
lemma childrenFrom_yields (n : Nat) (f : Forks) :
    Yields (f.childrenFrom n) fun children =>
      ∀ child ∈ children, f.rest ≠ [] ∧ child.stages = f.rest := by
  induction n generalizing f with
  | zero => exact Yields.pure nofun
  | succ n ih =>
      refine f.next_yields.bind fun x hx => ?_
      rcases x with ⟨_ | child, g⟩
      · exact Yields.pure nofun
      · obtain ⟨inner, stages, -, -⟩ := hx.child child rfl
        refine (ih g).bind fun children later => Yields.pure fun c hc => ?_
        rcases List.mem_cons.1 hc with rfl | hc
        · exact ⟨inner, stages⟩
        · exact hx.rest ▸ later c hc

end Forks

namespace ForkingJob

variable {j : ForkingJob} {w : World}

/-- The world in which a job has told of its start. -/
def started (j : ForkingJob) (w : World) : World :=
  (w.display j.token .running).tell (.jobStarted j.name)

/-- A job without stages ends at once. -/
lemma run_of_nil (hj : j.stages = []) :
    j.run w = Forks.ended j.name j.token "no_tasks" (j.started w) := by
  rw [run, hj]
  exact (bind_ok (publish_apply _ _ _) _).trans (bind_ok (emit_apply _ _) _)

/-- A job that sees a stop before its first stage does not perform it. -/
lemma run_of_stopped {head : Stage} {rest : List Stage} (hj : j.stages = head :: rest)
    (hs : (j.started w).look.isStopRequested j.token = true) :
    j.run w = Forks.ended j.name j.token "cancelled" (j.started w).look := by
  rw [started] at hs
  rw [run, hj]
  refine (bind_ok (publish_apply _ _ _) _).trans ((bind_ok (emit_apply _ _) _).trans ?_)
  refine (bind_ok (checkStop_apply _ _) _).trans ?_
  rw [hs]
  rfl

end ForkingJob

/-- What a job comes to has the token of the job, and its children have fewer stages. -/
lemma ForkingJob.run_yields (j : ForkingJob) :
    Yields j.run fun f => (f.rest ≠ [] → f.rest.length < j.stages.length) ∧ f.token = j.token := by
  obtain ⟨name, context, stages, token⟩ := j
  have ended (outcome : String) : Yields (Forks.ended name token outcome) fun f =>
      (f.rest ≠ [] → f.rest.length < stages.length) ∧ f.token = token := by
    refine Yields.mono (Forks.finish_yields _ _) fun f hf => ⟨fun inner => ?_, hf.2.1⟩
    exact absurd hf.1 inner
  refine Yields.after fun _ => Yields.after fun _ => ?_
  rcases stages with _ | ⟨head, rest⟩
  · exact ended _
  · refine Yields.after fun stopped => ?_
    cases stopped with
    | true => exact ended _
    | false =>
        refine Yields.after fun _ => Yields.after fun result => ?_
        rcases result with e | outputs
        · exact Yields.after fun _ => Yields.after fun _ => Yields.fail
        · refine Yields.after fun late => ?_
          cases late with
          | true => exact ended _
          | false => exact Yields.pure ⟨fun _ => Nat.lt_succ_self _, rfl⟩

/-- The same state with jobs in front of those queued. -/
def SchedulerState.front (jobs : List ForkingJob) (st : SchedulerState) : SchedulerState :=
  { st with queued := jobs ++ st.queued }

namespace Scheduler

variable {s : Scheduler} {jobs : List ForkingJob}

/-! ## What waits in front -/

/-- A result with jobs in front of those queued. -/
def inFront (jobs : List ForkingJob) (x : Progress × SchedulerState) : Progress × SchedulerState :=
  (x.1, x.2.front jobs)

/-- To look at the queue does not depend on the jobs in front. -/
lemma check_front (s : Scheduler) (waiting : Bool) (st : SchedulerState) :
    s.check waiting (st.front jobs) = inFront jobs <$> s.check waiting st := by
  simp only [check, map_bind]
  congr 1; funext cancelled
  cases cancelled with
  | true => simp [inFront, SchedulerState.front]
  | false =>
      rcases s.signal with _ | signal
      · simp [inFront]
      · simp only [map_bind, if_false, Bool.false_eq_true]
        congr 1; funext stopped
        cases stopped <;> cases waiting <;> simp [inFront, SchedulerState.front]

/-- A late job is queued behind whatever is in front. -/
lemma queueLate_front (s : Scheduler) (st : SchedulerState) :
    s.queueLate (st.front jobs) = SchedulerState.front jobs <$> s.queueLate st := by
  simp only [queueLate, map_bind]
  congr 1; funext w
  rcases s.late with _ | job
  · simp
  · rcases w.rung with _ | states
    · simp
    · rcases hl : st.lateQueued <;> simp [SchedulerState.front, hl]

/-- Children are queued behind whatever is in front. -/
lemma collect_front (forks : Forks) (st : SchedulerState) :
    collect forks (st.front jobs) = SchedulerState.front jobs <$> collect forks st := by
  simp only [collect]
  split_ifs <;> simp [SchedulerState.front]

/-- **A job does the same** whatever waits in front of its children. -/
lemma runJob_front (s : Scheduler) (job : ForkingJob) (st : SchedulerState) :
    s.runJob job (st.front jobs) = inFront jobs <$> s.runJob job st := by
  simp only [runJob, map_bind, queueLate_front, bind_map_left]
  congr 1; funext _
  congr 1; funext outcome
  congr 1; funext _
  congr 1; funext st
  rcases outcome with _ | e | forks
  · simp [inFront, SchedulerState.front]
  · simp [inFront, SchedulerState.front]
  · have behind (report : SchedulerReport) : ({ st.front jobs with report := report } :
        SchedulerState) = SchedulerState.front jobs { st with report := report } := rfl
    simp only [behind, collect_front, bind_map_left, map_bind]
    rfl

/-! ## Turns of a level -/

/-- A check that lets the run go on changes nothing. -/
lemma check_yields (s : Scheduler) (waiting : Bool) (st : SchedulerState) :
    Yields (s.check waiting st) fun x => x.1 = .goOn → x.2 = st := by
  simp only [check]
  refine Yields.after fun cancelled => ?_
  cases cancelled with
  | true => exact Yields.pure nofun
  | false =>
      rcases s.signal with _ | signal
      · exact Yields.pure fun _ => rfl
      · refine Yields.after fun stopped => ?_
        cases stopped with
        | true => exact Yields.pure nofun
        | false => exact Yields.pure fun _ => rfl

/-- What becomes of a queue some turns later. -/
def Ensues (s : Scheduler) (out : Except Halt SchedulerReport × World) :
    Except Halt (Progress × SchedulerState) × World → Prop
  | (.ok (.goOn, st), u) => WorksOff s st u out
  | (.ok (.halt, st), u) => out = (.ok st.report, u)
  | (.error e, u) => out = (.error e, u)

/-- The check of a turn sees the same whatever is queued behind the jobs of a level. -/
lemma turn_front (s : Scheduler) (job : ForkingJob) (rest : List ForkingJob) (st : SchedulerState) :
    s.turn (st.front (job :: rest)) =
      s.check true st >>= fun x => match x with
        | (.halt, st) => pure (.halt, st.front (job :: rest))
        | (.goOn, st') => s.runJob job { st' with queued := rest ++ st.queued } := by
  show s.check true (st.front (job :: rest)) >>= _ = _
  rw [check_front, bind_map_left]
  congr 1; funext x
  rcases x with ⟨_ | _, st'⟩ <;> rfl

/-- **A level works off its jobs**, in turn, before the jobs that they queue. -/
lemma worksOff_level {out : Except Halt SchedulerReport × World} (jobs : List ForkingJob)
    (st : SchedulerState) (w : World) (h : Ensues s out (s.level jobs st w)) :
    WorksOff s (st.front jobs) w out := by
  induction jobs generalizing st w with
  | nil => exact h
  | cons job rest ih =>
      rw [level] at h
      have turn := congrFun (turn_front s job rest st) w
      rcases hc : s.check true st w with ⟨e | ⟨_ | _, st'⟩, u⟩
      · rw [bind_error hc] at h turn
        have broken : out = (.error e, u) := h
        exact broken ▸ .breaks turn
      · rw [bind_ok hc] at h turn
        obtain rfl : st' = st := check_yields s true st w _ u hc rfl
        -- the rest of the level waits in front of what the job queues
        have runs : s.turn (st'.front (job :: rest)) w = (inFront rest <$> s.runJob job st') u := by
          rw [turn, ← runJob_front]
          rfl
        dsimp only at h
        rcases hr : s.runJob job st' u with ⟨e | ⟨_ | _, st₂⟩, v⟩
        · rw [bind_error hr] at h
          rw [map_error hr] at runs
          have broken : out = (.error e, v) := h
          exact broken ▸ .breaks runs
        · rw [bind_ok hr] at h
          rw [map_ok hr] at runs
          exact .turns runs (ih st₂ v h)
        · rw [bind_ok hr] at h
          rw [map_ok hr] at runs
          have halted : out = (.ok (st₂.front rest).report, v) := h
          exact halted ▸ .halts runs
      · rw [bind_ok hc] at h turn
        have halted : out = (.ok (st'.front (job :: rest)).report, u) := h
        exact halted ▸ .halts turn

/-! ## Levels enough -/

/-- **What jobs queue**: jobs with shorter chains than their own, and once the late job. -/
structure Queues (s : Scheduler) (jobs : List ForkingJob) (st st' : SchedulerState) : Prop where
  chains : ∀ j ∈ st'.queued, j ∈ st.queued ∨ (∃ p ∈ jobs, j.stages.length < p.stages.length) ∨
    s.late = some j ∧ st.lateQueued = false ∧ st'.lateQueued = true
  late : st.lateQueued = true → st'.lateQueued = true

lemma Queues.refl (s : Scheduler) (jobs : List ForkingJob) (st : SchedulerState) :
    s.Queues jobs st st :=
  ⟨fun _ hj => .inl hj, id⟩

/-- What two steps queue, one after the other. -/
lemma Queues.trans {more : List ForkingJob} {st st' st'' : SchedulerState}
    (h : s.Queues jobs st st') (h' : s.Queues more st' st'') :
    s.Queues (jobs ++ more) st st'' := by
  refine ⟨fun j hj => ?_, fun hl => h'.late (h.late hl)⟩
  rcases h'.chains j hj with hj | ⟨p, hp, short⟩ | ⟨here, before, after⟩
  · rcases h.chains j hj with hj | ⟨p, hp, short⟩ | ⟨here, before, after⟩
    · exact .inl hj
    · exact .inr (.inl ⟨p, List.mem_append_left _ hp, short⟩)
    · exact .inr (.inr ⟨here, before, h'.late after⟩)
  · exact .inr (.inl ⟨p, List.mem_append_right _ hp, short⟩)
  · refine .inr (.inr ⟨here, ?_, after⟩)
    exact Bool.eq_false_iff.2 fun hl => Bool.false_ne_true (before.symm.trans (h.late hl))

/-- The report does not matter. -/
lemma Queues.report {st st' : SchedulerState} (h : s.Queues jobs st st')
    (r r' : SchedulerReport) : s.Queues jobs { st with report := r } { st' with report := r' } :=
  ⟨h.chains, h.late⟩

lemma Queues.mono {jobs more : List ForkingJob} {st st' : SchedulerState}
    (h : s.Queues jobs st st') (hm : jobs ⊆ more) : s.Queues more st st' := by
  refine ⟨fun j hj => ?_, h.late⟩
  rcases h.chains j hj with hj | ⟨p, hp, short⟩ | late
  · exact .inl hj
  · exact .inr (.inl ⟨p, hm hp, short⟩)
  · exact .inr (.inr late)

lemma queueLate_yields (s : Scheduler) (st : SchedulerState) :
    Yields (s.queueLate st) (s.Queues [] st) := by
  refine Yields.after fun w => ?_
  rcases hs : s.late with _ | job
  · exact Yields.pure (Queues.refl s _ st)
  · rcases w.rung with _ | states
    · exact Yields.pure (Queues.refl s _ st)
    · rcases hl : st.lateQueued
      · refine Yields.pure ⟨fun j hj => ?_, fun _ => rfl⟩
        rcases List.mem_append.1 hj with hj | hj
        · exact .inl hj
        · cases List.mem_singleton.1 hj
          exact .inr (.inr ⟨hs, hl, rfl⟩)
      · exact Yields.pure (Queues.refl s _ st)

/-- The children of a job that are queued have fewer stages. -/
lemma collect_yields (s : Scheduler) {job : ForkingJob} {forks : Forks}
    (h : forks.rest ≠ [] → forks.rest.length < job.stages.length) (st : SchedulerState) :
    Yields (collect forks st) (s.Queues [job] st) := by
  rw [collect]
  split_ifs
  · exact Yields.after fun outputs => Yields.pure ⟨fun _ hj => .inl hj, id⟩
  · refine (forks.childrenFrom_yields _).bind fun children short => Yields.pure ⟨?_, id⟩
    intro j hj
    rcases List.mem_append.1 hj with hj | hj
    · exact .inl hj
    · obtain ⟨inner, stages⟩ := short j hj
      exact .inr (.inl ⟨job, List.mem_singleton_self _, stages ▸ h inner⟩)

/-- What a job leaves has fewer stages than it. -/
lemma outcome_yields (s : Scheduler) (job : ForkingJob) :
    Yields (s.outcome job) fun r => ∀ forks, r = some (.ok forks) →
      (forks.rest ≠ [] → forks.rest.length < job.stages.length) ∧ forks.token = job.token := by
  intro w r u h forks hr
  subst hr
  simp only [outcome, settle] at h
  rcases hx : job.run w with ⟨(e | _) | f, v⟩
  · simp only [hx] at h
    cases h
  · simp only [hx] at h
    split_ifs at h <;> cases h
  · simp only [hx] at h
    cases h
    exact job.run_yields w forks u hx

/-- A job that is run queues its children, and the late job perhaps. -/
lemma runJob_queues (s : Scheduler) (job : ForkingJob) (st : SchedulerState) :
    Yields (s.runJob job st) fun x => s.Queues [job] st x.2 := by
  refine Yields.after fun _ => (s.outcome_yields job).bind fun r hr => ?_
  refine Yields.after fun _ => (s.queueLate_yields st).bind fun st' queued => ?_
  rcases r with _ | e | forks
  · exact Yields.pure ((queued.mono (List.nil_subset _)).report st.report _)
  · exact Yields.pure ((queued.mono (List.nil_subset _)).report st.report _)
  · refine (collect_yields s (hr forks rfl).1 _).bind fun st'' more => Yields.pure ?_
    exact queued.trans (more.report st'.report st''.report)

/-- A level that lets the run go on queues jobs with shorter chains, and once the late job. -/
lemma level_queues (s : Scheduler) (jobs : List ForkingJob) (st : SchedulerState) :
    Yields (s.level jobs st) fun x => x.1 = .goOn → s.Queues jobs st x.2 := by
  induction jobs generalizing st with
  | nil => exact Yields.pure fun _ => Queues.refl s _ st
  | cons job rest ih =>
      refine (check_yields s true st).bind fun x checked => ?_
      rcases x with ⟨_ | _, st₁⟩
      · obtain rfl : st₁ = st := checked rfl
        refine (runJob_queues s job st₁).bind fun y ran => ?_
        rcases y with ⟨_ | _, st₂⟩
        · exact (ih st₂).mono fun z later hz => ran.trans (later hz)
        · exact Yields.pure nofun
      · exact Yields.pure nofun

/-- The levels that the late job may still need: it may come into any of them, once. -/
def spare (s : Scheduler) (late : Bool) : Nat :=
  if late then 0 else longestChain s.late.toList + 1

/-- The longest chain of a queue bounds all of its chains. -/
lemma length_le_longestChain (jobs : List ForkingJob) :
    ∀ j ∈ jobs, j.stages.length ≤ longestChain jobs := by
  have bound : ∀ (jobs : List ForkingJob) (n : Nat),
      n ≤ jobs.foldl (fun n job => max n job.stages.length) n ∧
        ∀ j ∈ jobs, j.stages.length ≤ jobs.foldl (fun n job => max n job.stages.length) n := by
    intro jobs
    induction jobs with
    | nil => exact fun n => ⟨Nat.le_refl n, fun j h => (List.not_mem_nil h).elim⟩
    | cons job rest ih =>
        intro n
        obtain ⟨start, all⟩ := ih (max n job.stages.length)
        refine ⟨Nat.le_trans (Nat.le_max_left _ _) start, fun j h => ?_⟩
        rcases List.mem_cons.1 h with rfl | h
        · exact Nat.le_trans (Nat.le_max_right _ _) start
        · exact all j h
  exact (bound jobs 0).2

/-- What a level has queued needs fewer levels than the level and what is behind it. -/
lemma Queues.spare_lt {job : ForkingJob} {jobs : List ForkingJob} {report : SchedulerReport}
    {late : Bool} {st : SchedulerState} {n : Nat} (h : s.Queues jobs ⟨report, [], late⟩ st)
    (hj : job ∈ jobs) (hn : ∀ j ∈ jobs, j.stages.length + s.spare late < n) :
    s.spare st.lateQueued < n ∧
      ∀ j ∈ st.queued, j.stages.length + s.spare st.lateQueued + 1 < n := by
  have fewer : s.spare st.lateQueued ≤ s.spare late := by
    cases late with
    | true => exact Nat.le_of_eq (congrArg s.spare (h.late rfl))
    | false => cases st.lateQueued <;> simp [spare]
  have start := hn job hj
  refine ⟨by omega, fun j hq => ?_⟩
  rcases h.chains j hq with hq | ⟨p, hp, short⟩ | ⟨hl, before, after⟩
  · cases hq
  · have := hn p hp
    omega
  · have long : j.stages.length ≤ longestChain s.late.toList :=
      length_le_longestChain _ j (by simp [hl])
    obtain rfl : late = false := before
    have all : s.spare false = longestChain s.late.toList + 1 := rfl
    have none : s.spare st.lateQueued = 0 := by rw [after]; rfl
    omega

/-- One more round over the queue, and the others unless it is halted. -/
lemma levels_cons (s : Scheduler) (fuel : Nat) (job : ForkingJob) (rest : List ForkingJob)
    (report : SchedulerReport) (late : Bool) :
    s.levels (fuel + 1) (job :: rest) report late =
      s.level (job :: rest) ⟨report, [], late⟩ >>= fun x => match x with
        | (.halt, st) => pure st.report
        | (.goOn, st) => s.levels fuel st.queued st.report st.lateQueued :=
  rfl

/-- **Level after level works off the queue**, as long as there are levels enough. -/
lemma levels_worksOff (s : Scheduler) (fuel : Nat) (queue : List ForkingJob)
    (report : SchedulerReport) (late : Bool) (w : World) (hs : s.spare late < fuel)
    (hq : ∀ j ∈ queue, j.stages.length + s.spare late + 1 < fuel) :
    WorksOff s ⟨report, queue, late⟩ w (s.levels fuel queue report late w) := by
  induction fuel generalizing queue report late w with
  | zero => cases hs
  | succ fuel ih =>
      rcases queue with _ | ⟨job, rest⟩
      · rcases hc : s.check false ⟨report, [], late⟩ w with ⟨e | ⟨g, st⟩, u⟩
        · rw [levels, bind_error hc]
          exact .breaks (bind_error hc _)
        · rw [levels, bind_ok hc]
          exact .halts (bind_ok hc _)
      · -- a level starts with nothing queued behind its jobs
        have front : (⟨report, job :: rest, late⟩ : SchedulerState) =
            SchedulerState.front (job :: rest) ⟨report, [], late⟩ := by
          simp [SchedulerState.front]
        rw [front]
        refine worksOff_level _ _ w ?_
        rcases hl : s.level (job :: rest) ⟨report, [], late⟩ w with ⟨e | ⟨_ | _, st⟩, u⟩
        · rw [levels_cons, bind_error hl]
          rfl
        · have queued := level_queues s _ _ w _ u hl rfl
          obtain ⟨hs', hq'⟩ := queued.spare_lt (List.mem_cons_self ..)
            fun j hj => Nat.lt_of_succ_lt_succ (hq j hj)
          rw [levels_cons, bind_ok hl]
          exact ih st.queued st.report st.lateQueued u hs' hq'
        · rw [levels_cons, bind_ok hl]
          rfl

/-- **A run works off the queue of its jobs**, first come, first served, and comes to what that
comes to. -/
theorem run_worksOff (s : Scheduler) (queue : List ForkingJob) (w : World)
    (out : Except Halt SchedulerReport × World) :
    WorksOff s ⟨{}, queue, false⟩ w out ↔ s.run queue w = out := by
  have spare : s.spare false = longestChain s.late.toList + 1 := rfl
  have runs : WorksOff s ⟨{}, queue, false⟩ w (s.run queue w) := by
    refine levels_worksOff s _ queue {} false w ?_ fun j hj => ?_
    · rw [spare, levelBound]
      omega
    · have := length_le_longestChain queue j hj
      rw [spare, levelBound]
      omega
  exact ⟨fun h => runs.unique h, fun h => h ▸ runs⟩

end Scheduler

end Connector
