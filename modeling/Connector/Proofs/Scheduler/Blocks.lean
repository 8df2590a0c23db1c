import Connector.Proofs.Harmony
import Connector.Proofs.Scheduler.Levels
import Connector.Proofs.Scheduler.Queue

/-!
# What the turns of a scheduler tell

A job tells of its start, of what happens inside it, of its children, and of its end.  The counts
of the report are kept elsewhere, by the scheduler; this file has both side by side, for one job
and for one turn of the queue, in every world and with stops of all kinds.

* `Inside` — events of no job as a whole; `Stage.perform_inside` — a stage tells nothing else.
* `ForkingJob.RunLog`, `Forks.children_leaves` — a job up to its children, and its children.
* `Scheduler.JobLog`, **`Scheduler.runJob_leaves`** — one job: its events and what it adds.
* `Scheduler.TurnLog`, **`Scheduler.turn_leaves`** — one turn of the queue.
* `Scheduler.requests`, **`WorksOff.keeps`** — what every step of the jobs keeps, a run keeps.
-/

namespace Connector

open Work

/-- **Events from inside a job**: none is of a job as a whole. -/
def Inside (log : List Event) : Prop := ∀ e ∈ log, e.isJobLevel = false

lemma Inside.append {log more : List Event} (h : Inside log) (hm : Inside more) :
    Inside (log ++ more) := by
  intro e he
  exact (List.mem_append.1 he).elim (h e) (hm e)

lemma Inside.filter {log : List Event} (h : Inside log) : log.filter Event.isJobLevel = [] :=
  List.filter_eq_nil_iff.2 fun e he => by simp [h e he]

/-- Loops and stages tell nothing else. -/
lemma harmony_inside (w : World) :
    Harmony (Same (Since w fun log _ => Inside log)) (fun e => e.isJobLevel = false)
      fun _ => True :=
  harmony_since w (fun e log _ he hl => hl.append (by simpa [Inside] using he)) fun _ _ => rfl

lemma Request.digests_inside (w : World) (request : Request) :
    request.Digests (Same (Since w fun log _ => Inside log)) :=
  request.digests_since (harmony_inside w) (fun _ _ => rfl) fun _ _ => rfl

/-- **A stage tells only of what happens inside the job.** -/
theorem Stage.perform_inside (stage : Stage) (token : Token) (context : Context) :
    (stage.perform token context).Leaves fun _ t => Inside t.events := by
  intro w
  have steady : Steady (Same (Since w fun log _ => Inside log)) (stage.perform token context) :=
    (harmony_inside w).perform (fun request _ => request.digests_inside w) trivial context
  exact steady.keeps (Since.refl nofun)

/-- The loop of a request job tells only of what happens inside the job. -/
lemma RequestJob.loop_inside (j : RequestJob) : j.loop.Leaves fun _ t => Inside t.events := by
  intro w
  have steady : Steady (Same (Since w fun log _ => Inside log)) j.loop :=
    (harmony_inside w).requestJob_loop (j.request.digests_inside w) trivial
  exact steady.keeps (Since.refl nofun)

namespace Forks

/-! ## Children -/

/-- What a job tells of its children. -/
def told (parent : String) (children : List ForkingJob) : List Event :=
  children.map fun child => .jobForked parent child.name

lemma length_childrenOf (parent : String) (token : Token) (rest : List Stage) (n : Nat)
    (outputs : List Context) :
    (childrenOf parent token rest n outputs).length = outputs.length := by
  induction outputs generalizing n with
  | nil => rfl
  | cons context outputs ih => simp [childrenOf, ih]

/-- The end of a job is told once, with how many children it had. -/
lemma finish_leaves {f : Forks} (hf : f.finished = false) {outcome : String}
    {Q : Except Halt Forks → Trail → Prop}
    (h : ∀ outcome, Q (.ok { f with outputs := [], finished := true })
      ⟨[.jobCompleted f.parent outcome f.produced], [], [(f.token, .stopped)]⟩) :
    (f.finish outcome).Leaves Q := by
  rw [finish, hf]
  refine Leaves.checkStop_bind fun stop => Leaves.emit_bind (Leaves.publish_bind ?_)
  exact Leaves.pure (by simpa using h _)

/-- The next child of a job with stages left: there is one, or the job ends. -/
lemma next_leaves {f : Forks} (hf : f.finished = false) (hl : f.rest ≠ [])
    {Q : Except Halt (Option ForkingJob × Forks) → Trail → Prop}
    (hend : ∀ outcome g, Q (.ok (none, g))
      ⟨[.jobCompleted f.parent outcome f.produced], [], [(f.token, .stopped)]⟩)
    (hchild : ∀ context outputs, f.outputs = context :: outputs →
      Q (.ok (some (f.child context), { f with outputs := outputs, produced := f.produced + 1 }))
        { events := [.jobForked f.parent (f.child context).name] }) :
    f.next.Leaves Q := by
  have ending (outcome : String) : (do return (none, ← f.finish outcome) :
      Work (Option ForkingJob × Forks)).Leaves Q :=
    Leaves.bind (finish_leaves hf fun o => Leaves.Then.ok (Leaves.pure (by simpa using hend o _)))
  have inner : f.isLeaf = false := by simpa [isLeaf] using hl
  rw [next, hf, inner]
  refine Leaves.checkStop_bind fun stop => ?_
  cases stop with
  | true => exact ending _
  | false =>
      rcases ho : f.outputs with _ | ⟨context, outputs⟩
      · exact ending _
      · exact Leaves.emit_bind (Leaves.pure (by simpa [hf] using hchild context outputs ho))

/-- **All children, and the end of the job.**  A stop may end the job with children left over;
those there are have the numbers from `n + 1` on. -/
theorem children_leaves (parent : String) (token : Token) {rest : List Stage} (hr : rest ≠ [])
    (outputs : List Context) (n : Nat) :
    (Forks.children ⟨parent, token, rest, outputs, n, false⟩).Leaves fun r t =>
      ∃ contexts outcome, r = .ok (childrenOf parent token rest n contexts) ∧
        t.events = told parent (childrenOf parent token rest n contexts) ++
          [.jobCompleted parent outcome (n + contexts.length)] := by
  rw [children]
  induction outputs generalizing n with
  | nil =>
      refine Leaves.bind (next_leaves rfl hr (fun outcome g => ?_) fun _ _ h => by cases h)
      exact Leaves.Then.ok (Leaves.pure ⟨[], outcome, rfl, rfl⟩)
  | cons context outputs ih =>
      refine Leaves.bind (next_leaves rfl hr (fun outcome g => ?_) fun _ _ h => ?_)
      · exact Leaves.Then.ok (Leaves.pure ⟨[], outcome, rfl, rfl⟩)
      · cases h
        refine Leaves.Then.ok (Leaves.bind ((ih (n + 1)).mono ?_))
        rintro r t ⟨contexts, outcome, rfl, ht⟩
        refine Leaves.Then.ok (Leaves.pure ⟨context :: contexts, outcome, rfl, ?_⟩)
        have number : n + (contexts.length + 1) = n + 1 + contexts.length := by omega
        simp [ht, told, childrenOf, child, number]

end Forks

/-! ## A job up to its children -/

/-- **What the run of a job leaves**: it has yielded contexts, or has ended early, or failed. -/
inductive ForkingJob.RunLog (j : ForkingJob) : Except Halt Forks → List Event → Prop where
  | performed {inner : List Event} (hi : Inside inner) (outputs : List Context) :
      RunLog j (.ok ⟨j.name, j.token, j.stages.tail, outputs, 0, false⟩)
        (.jobStarted j.name :: inner)
  | ended {inner : List Event} (hi : Inside inner) (outcome : String) :
      RunLog j (.ok ⟨j.name, j.token, [], [], 0, true⟩)
        (.jobStarted j.name :: (inner ++ [.jobCompleted j.name outcome 0]))
  | failed {inner : List Event} (hi : Inside inner) (e : RunError) :
      RunLog j (.error (.failed e)) (.jobStarted j.name :: (inner ++ [.jobFailed j.name e.message]))
  | hung {inner : List Event} (hi : Inside inner) :
      RunLog j (.error .hung) (.jobStarted j.name :: inner)

/-- What a job tells while it runs: its start, and its end if it fails or has nothing to hand on. -/
lemma ForkingJob.run_leaves (j : ForkingJob) :
    j.run.Leaves fun r t => j.RunLog r t.events := by
  obtain ⟨name, context, stages, token⟩ := j
  have ended (inner : List Event) (hi : Inside inner) (outcome : String) :
      (Forks.ended name token outcome).Leaves fun r u =>
        RunLog ⟨name, context, stages, token⟩ r (.jobStarted name :: (inner ++ u.events)) :=
    Forks.finish_leaves rfl fun o => .ended hi o
  have none : Inside [] := nofun
  refine Leaves.publish_bind (Leaves.emit_bind ?_)
  rcases stages with _ | ⟨head, rest⟩
  · exact (ended [] none _).mono fun r u h => by simpa using h
  · refine Leaves.checkStop_bind fun stop => ?_
    cases stop with
    | true => exact (ended [] none _).mono fun r u h => by simpa using h
    | false =>
        refine Leaves.publish_bind (Leaves.bind ?_)
        refine (Leaves.settle (head.perform_inside (token.child 0) context)).mono ?_
        rintro (h | e | outputs) t hi
        · obtain ⟨rfl, hi⟩ := hi
          exact Leaves.Then.error (by simpa using RunLog.hung hi)
        · refine Leaves.Then.ok (Leaves.emit_bind (Leaves.publish_bind (Leaves.fail ?_)))
          simpa using RunLog.failed hi e
        · refine Leaves.Then.ok (Leaves.checkStop_bind fun late => ?_)
          cases late with
          | true => exact (ended t.events hi _).mono fun r u h => by simpa using h
          | false =>
              have log : RunLog ⟨name, context, head :: rest, token⟩
                  (.ok ⟨name, token, rest, outputs, 0, false⟩) (.jobStarted name :: t.events) :=
                .performed hi outputs
              exact Leaves.pure (by simpa using log)

/-! ## One job of a scheduler -/

/-- The state with what one more job adds: its children at the end of the queue, and its failures
and results. -/
def SchedulerState.adding (children : List ForkingJob) (failures : List (String × RunError))
    (outputs : List Context) (st : SchedulerState) : SchedulerState :=
  { st with
    report := { st.report with
      executed := st.report.executed + 1
      forked := st.report.forked + children.length
      failures := st.report.failures ++ failures
      outputs := st.report.outputs ++ outputs }
    queued := st.queued ++ children }

namespace Scheduler

variable {s : Scheduler} {job : ForkingJob} {st : SchedulerState}

/-- **The late job is submitted**, once, or it is not. -/
inductive TakesLate (s : Scheduler) (st : SchedulerState) : SchedulerState → Prop where
  | none : TakesLate s st st
  | submitted {job : ForkingJob} (hs : s.late = some job) (hl : st.lateQueued = false) :
      TakesLate s st { st with queued := st.queued ++ [job], lateQueued := true }

/-- **What one job leaves**, by how it ends: the events it tells, and what it adds to the state
after the late job may have come in. -/
inductive JobLog (s : Scheduler) (job : ForkingJob) (st : SchedulerState) :
    Except Halt (Progress × SchedulerState) → List Event → Prop where
  | completed {st' : SchedulerState} (hl : s.TakesLate st st') {inner : List Event}
      (hi : Inside inner) (outcome : String) (contexts outputs : List Context)
      {children : List ForkingJob}
      (hc : children = Forks.childrenOf job.name job.token job.stages.tail 0 contexts) :
      JobLog s job st (.ok (.goOn, st'.adding children [] outputs))
        (.jobStarted job.name :: (inner ++ (Forks.told job.name children ++
          [.jobCompleted job.name outcome children.length])))
  | failed {st' : SchedulerState} (hl : s.TakesLate st st') {inner : List Event}
      (hi : Inside inner) (e : RunError) :
      JobLog s job st (.ok (.goOn, st'.adding [] [(job.name, e)] []))
        (.jobStarted job.name :: (inner ++ [.jobFailed job.name e.message]))
  | overran {st' : SchedulerState} (hl : s.TakesLate st st') {inner : List Event}
      (hi : Inside inner) :
      JobLog s job st (.ok (.halt, (st'.adding [] [] []).cancelled)) (.jobStarted job.name :: inner)
  | hung {inner : List Event} (hi : Inside inner) :
      JobLog s job st (.error .hung) (.jobStarted job.name :: inner)

lemma relayTo_bind {α : Type} {target : Option Token} {f : Unit → Work α}
    {Q : Except Halt α → Trail → Prop} (h : (f ()).Leaves Q) :
    (s.relayTo target >>= f).Leaves Q := by
  refine Leaves.modify_bind (t := .empty) (fun w => ?_) (by simpa using h)
  exact (Trail.append_empty _).symm

/-- A late job is queued without a word. -/
lemma queueLate_leaves {Q : Except Halt SchedulerState → Trail → Prop}
    (h : ∀ st', s.TakesLate st st' → Q (.ok st') .empty) : (s.queueLate st).Leaves Q := by
  refine Leaves.get_bind fun w => ?_
  rcases hs : s.late with _ | late
  · exact Leaves.pure (h _ .none)
  · rcases w.rung with _ | states
    · exact Leaves.pure (h _ .none)
    · rcases hl : st.lateQueued
      · exact Leaves.pure (h _ (.submitted hs hl))
      · exact Leaves.pure (h _ .none)

/-- A job leaves the same log whether its error is kept or it is waited for in vain. -/
lemma outcome_leaves (s : Scheduler) (job : ForkingJob) :
    (s.outcome job).Leaves fun r t => match r with
      | .ok (some result) => job.RunLog (result.mapError .failed) t.events
      | .ok none => job.RunLog (.error .hung) t.events
      | .error h => h = .hung ∧ job.RunLog (.error .hung) t.events := by
  intro w
  obtain ⟨t, ht, log⟩ := job.run_leaves w
  refine ⟨t, ?_⟩
  simp only [outcome, settle]
  rcases hr : job.run w with ⟨(e | _) | f, u⟩ <;> rw [hr] at ht log
  · exact ⟨ht, log⟩
  · by_cases hc : u.isStopRequested s.cancel = true
    · simp only [hc, if_true]
      exact ⟨ht, log⟩
    · simp only [hc]
      exact ⟨ht, rfl, log⟩
  · exact ⟨ht, log⟩

/-- What is taken up from a job that has yielded contexts. -/
lemma collect_leaves (rest : List Stage) (outputs : List Context)
    {Q : Except Halt SchedulerState → Trail → Prop}
    (h : ∀ contexts outcome outputs (children : List ForkingJob) t,
      children = Forks.childrenOf job.name job.token rest 0 contexts →
      t.events = Forks.told job.name children ++
        [.jobCompleted job.name outcome children.length] →
      Q (.ok { st with
        report := { st.report with
          forked := st.report.forked + children.length
          outputs := st.report.outputs ++ outputs }
        queued := st.queued ++ children }) t) :
    (collect ⟨job.name, job.token, rest, outputs, 0, false⟩ st).Leaves Q := by
  rw [collect]
  split_ifs with leaf
  · rw [Forks.takeOutputs, if_pos leaf]
    refine Leaves.bind (Leaves.bind (Leaves.bind (Forks.finish_leaves rfl fun outcome => ?_)))
    refine Leaves.Then.ok (Leaves.pure (Leaves.Then.ok (Leaves.pure (Leaves.Then.ok ?_))))
    refine Leaves.pure ?_
    simpa using h [] outcome outputs [] _ rfl rfl
  · have inner : rest ≠ [] := by simpa [Forks.isLeaf] using leaf
    refine Leaves.bind ((Forks.children_leaves job.name job.token inner outputs 0).mono ?_)
    rintro r t ⟨contexts, outcome, rfl, ht⟩
    refine Leaves.Then.ok (Leaves.pure ?_)
    have count := Forks.length_childrenOf job.name job.token rest 0 contexts
    simpa using h contexts outcome [] _ t rfl (by rw [ht, count, Nat.zero_add])

/-- From a job that has ended early there is nothing to take up. -/
lemma collect_ended (st : SchedulerState) :
    collect ⟨job.name, job.token, [], [], 0, true⟩ st = pure st := by
  have leaf : Forks.isLeaf ⟨job.name, job.token, [], [], 0, true⟩ = true := rfl
  have taken : Forks.takeOutputs ⟨job.name, job.token, [], [], 0, true⟩ = pure [] := rfl
  simp only [collect, leaf, if_true, taken, pure_bind, List.append_nil]

/-- **One job.** -/
theorem runJob_leaves (s : Scheduler) (job : ForkingJob) (st : SchedulerState) :
    (s.runJob job st).Leaves fun r t => s.JobLog job st r t.events := by
  refine relayTo_bind (Leaves.bind ((outcome_leaves s job).mono ?_))
  rintro (h | _ | e | forks) ⟨events, sent, states⟩ ht <;> dsimp only at ht
  · obtain ⟨rfl, log⟩ := ht
    cases log with
    | hung hi => exact Leaves.Then.error (.hung hi)
  · refine Leaves.Then.ok (relayTo_bind (Leaves.bind (queueLate_leaves fun st' late => ?_)))
    have log : job.RunLog (.error .hung) events := ht
    cases log with
    | hung hi =>
        refine Leaves.Then.ok (Leaves.pure ?_)
        simpa [SchedulerState.adding, SchedulerState.cancelled] using JobLog.overran late hi
  · refine Leaves.Then.ok (relayTo_bind (Leaves.bind (queueLate_leaves fun st' late => ?_)))
    have log : job.RunLog (.error (.failed e)) events := ht
    cases log with
    | failed hi e =>
        refine Leaves.Then.ok (Leaves.pure ?_)
        simpa [SchedulerState.adding] using JobLog.failed late hi e
  · refine Leaves.Then.ok (relayTo_bind (Leaves.bind (queueLate_leaves fun st' late => ?_)))
    have log : job.RunLog (.ok forks) events := ht
    cases log with
    | performed hi outputs =>
        refine Leaves.Then.ok (Leaves.bind (collect_leaves _ _ ?_))
        intro contexts outcome outputs children u hc hu
        refine Leaves.Then.ok (Leaves.pure ?_)
        simpa [SchedulerState.adding, hu] using JobLog.completed late hi outcome contexts outputs hc
    | ended hi outcome =>
        refine Leaves.Then.ok (Leaves.bind ?_)
        rw [collect_ended]
        refine Leaves.pure (Leaves.Then.ok (Leaves.pure ?_))
        have nobody : [] = Forks.childrenOf job.name job.token job.stages.tail 0 [] := rfl
        simpa [SchedulerState.adding, Forks.told] using
          JobLog.completed late hi outcome [] [] nobody

/-! ## One turn of the queue -/

/-- **What one turn leaves**: nothing when no job is to start, and else what one job leaves. -/
inductive TurnLog (s : Scheduler) (st : SchedulerState) :
    Except Halt (Progress × SchedulerState) → List Event → Prop where
  | idle (hq : st.queued = []) : TurnLog s st (.ok (.halt, st)) []
  | cancelled : TurnLog s st (.ok (.halt, st.cancelled)) []
  | ran {job : ForkingJob} {rest : List ForkingJob} {r : Except Halt (Progress × SchedulerState)}
      {log : List Event} (hq : st.queued = job :: rest)
      (h : s.JobLog job { st with queued := rest } r log) : TurnLog s st r log

lemma check_bind {α : Type} {waiting : Bool} {f : Progress × SchedulerState → Work α}
    {Q : Except Halt α → Trail → Prop} (hc : (f (.halt, st.cancelled)).Leaves Q)
    (hs : waiting = false → (f (.halt, st)).Leaves Q) (hg : (f (.goOn, st)).Leaves Q) :
    (s.check waiting st >>= f).Leaves Q := by
  refine Leaves.bind (Leaves.checkStop_bind fun cancelled => ?_)
  cases cancelled with
  | true => exact Leaves.pure (Leaves.Then.ok (by simpa [SchedulerState.cancelled] using hc))
  | false =>
      rcases s.signal with _ | signal
      · exact Leaves.pure (Leaves.Then.ok (by simpa using hg))
      · refine Leaves.checkStop_bind fun stopped => ?_
        cases stopped with
        | false => exact Leaves.pure (Leaves.Then.ok (by simpa using hg))
        | true =>
            cases waiting with
            | true =>
                exact Leaves.pure (Leaves.Then.ok (by simpa [SchedulerState.cancelled] using hc))
            | false => exact Leaves.pure (Leaves.Then.ok (by simpa using hs rfl))

/-- **One turn.** -/
theorem turn_leaves (s : Scheduler) (st : SchedulerState) :
    (s.turn st).Leaves fun r t => s.TurnLog st r t.events := by
  obtain ⟨report, queued, late⟩ := st
  rw [turn]
  rcases queued with _ | ⟨job, rest⟩
  · exact check_bind (Leaves.pure .cancelled) (fun _ => Leaves.pure (.idle rfl))
      (Leaves.pure (.idle rfl))
  · refine check_bind (Leaves.pure .cancelled) (fun idle => absurd idle Bool.noConfusion) ?_
    exact (runJob_leaves s job _).mono fun r t h => .ran rfl h

/-! ## What every turn keeps -/

/-- **The requests that jobs may send**, those of the late job among them. -/
def requests (s : Scheduler) (jobs : List ForkingJob) : List Request :=
  (jobs ++ s.late.toList).flatMap fun job => Stage.requests job.stages

/-- Children and late jobs send no requests but those already counted. -/
lemma requests_subset {jobs more : List ForkingJob}
    (h : ∀ job ∈ more, (∃ parent ∈ jobs, Stage.requests job.stages ⊆ Stage.requests parent.stages) ∨
      s.late = some job) : s.requests more ⊆ s.requests jobs := by
  intro request hr
  obtain ⟨job, hj, hr⟩ := List.mem_flatMap.1 hr
  rcases List.mem_append.1 hj with hj | hj
  · rcases h job hj with ⟨parent, hp, sub⟩ | late
    · exact List.mem_flatMap.2 ⟨parent, List.mem_append_left _ hp, sub hr⟩
    · exact List.mem_flatMap.2 ⟨job, List.mem_append_right _ (by simp [late]), hr⟩
  · exact List.mem_flatMap.2 ⟨job, List.mem_append_right _ hj, hr⟩

/-- **What is queued after a turn**: jobs that were queued before it, the late job, and children of
a job that was queued before it. -/
lemma TurnLog.mem_queued {p : Progress} {st' : SchedulerState} {log : List Event}
    (h : s.TurnLog st (.ok (p, st')) log) {job : ForkingJob} (hj : job ∈ st'.queued) :
    job ∈ st.queued ∨ s.late = some job ∨ ∃ parent ∈ st.queued, ∃ contexts,
      job ∈ Forks.childrenOf parent.name parent.token parent.stages.tail 0 contexts := by
  cases h with
  | idle hq => exact .inl hj
  | cancelled => exact .inl hj
  | @ran parent rest r log hq h =>
      have waiting {st' : SchedulerState} (hl : s.TakesLate { st with queued := rest } st')
          (hj : job ∈ st'.queued) : job ∈ st.queued ∨ s.late = some job := by
        have behind : rest ⊆ st.queued := hq ▸ List.subset_cons_self _ _
        cases hl with
        | none => exact .inl (behind hj)
        | submitted hs hl =>
            rcases List.mem_append.1 hj with hj | hj
            · exact .inl (behind hj)
            · exact .inr (List.mem_singleton.1 hj ▸ hs)
      cases h with
      | completed hl hi outcome contexts outputs hc =>
          rcases List.mem_append.1 hj with hj | hj
          · exact (waiting hl hj).imp_right .inl
          · exact .inr (.inr ⟨parent, by simp [hq], contexts, hc ▸ hj⟩)
      | failed hl hi e =>
          exact (waiting hl (by simpa [SchedulerState.adding] using hj)).imp_right .inl
      | overran hl hi =>
          refine (waiting hl ?_).imp_right .inl
          simpa [SchedulerState.adding, SchedulerState.cancelled] using hj

/-- A turn queues jobs with stages that were there before. -/
lemma TurnLog.requests {p : Progress} {st' : SchedulerState} {log : List Event}
    (h : s.TurnLog st (.ok (p, st')) log) : s.requests st'.queued ⊆ s.requests st.queued := by
  refine requests_subset fun job hj => ?_
  rcases h.mem_queued hj with hj | late | ⟨parent, hp, contexts, hc⟩
  · exact .inl ⟨job, hj, List.Subset.refl _⟩
  · exact .inr late
  · refine .inl ⟨parent, hp, ?_⟩
    rw [(ForkingJob.of_mem_childrenOf hc).1]
    exact ((List.tail_sublist _).filterMap _).subset

section Keeps

variable {P : World → Prop} {E : Event → Prop} (hR : Harmony (Same P) E fun _ => True)
  (he : ∀ e : Event, e.isJobLevel → E e)

include hR he

/-- A turn keeps what the requests of its jobs keep. -/
lemma turn_keeps (s : Scheduler) (st : SchedulerState)
    (hd : ∀ request ∈ s.requests st.queued, request.Digests (Same P)) :
    Steady (Same P) (s.turn st) := by
  have check (waiting : Bool) : Steady (Same P) (s.check waiting st) := by
    refine Steady.bind (hR.checkStop trivial) fun cancelled => ?_
    cases cancelled with
    | true => exact Steady.pure _
    | false =>
        rcases s.signal with _ | signal
        · exact Steady.pure _
        · refine Steady.bind (hR.checkStop trivial) fun stopped => ?_
          cases stopped <;> exact Steady.pure _
  have late (st : SchedulerState) : Steady (Same P) (s.queueLate st) := by
    refine Steady.get_bind (fun w u hr => by rw [hr.1]) fun w => ?_
    rcases s.late with _ | job
    · exact Steady.pure _
    · rcases w.rung with _ | states
      · exact Steady.pure _
      · rcases st.lateQueued <;> exact Steady.pure _
  obtain ⟨report, queued, lateQueued⟩ := st
  rw [turn]
  rcases queued with _ | ⟨job, rest⟩
  · exact Steady.bind (check false) fun _ => Steady.pure _
  · refine Steady.bind (check true) fun x => ?_
    rcases x with ⟨_ | _, st⟩
    · refine Harmony.runJob he hR trivial late (fun request hr => hd request ?_) trivial _
      exact List.mem_flatMap.2 ⟨job, by simp, hr⟩
    · exact Steady.pure _

end Keeps

end Scheduler

/-- **What every step of the jobs keeps, all turns of the queue keep.** -/
theorem WorksOff.keeps {P : World → Prop} {E : Event → Prop}
    (hR : Harmony (Same P) E fun _ => True) (he : ∀ e : Event, e.isJobLevel → E e)
    {s : Scheduler} {st : SchedulerState} {w : World}
    {out : Except Halt SchedulerReport × World} (h : WorksOff s st w out)
    (hd : ∀ request ∈ s.requests st.queued, request.Digests (Same P)) (hw : P w) : P out.2 := by
  have turn {st : SchedulerState} {w u : World} {r : Except Halt (Progress × SchedulerState)}
      (hd : ∀ request ∈ s.requests st.queued, request.Digests (Same P)) (hw : P w)
      (h : s.turn st w = (r, u)) : P u := by
    have kept := (Scheduler.turn_keeps hR he s st hd).keeps hw
    rwa [h] at kept
  induction h with
  | halts h => exact turn hd hw h
  | breaks h => exact turn hd hw h
  | @turns st st' w u out h _ ih =>
      obtain ⟨t, -, log⟩ := s.turn_leaves st w
      rw [h] at log
      exact ih (fun request hr => hd request (log.requests hr)) (turn hd hw h)

end Connector
