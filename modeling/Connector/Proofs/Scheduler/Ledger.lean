import Connector.Proofs.Scheduler.Blocks
import Connector.Proofs.Wire

/-!
# The books of a scheduler run

The scheduler counts, and the jobs tell.  Every way in which a job can end — with children, with
results, with an error, stopped early, or given up after a cancellation — adds to the counts what
it adds to the events, and moves jobs between the queue and the counts without losing one.

* `JobBlock.events` — what an ended job tells of itself as a whole.
* `Scheduler.Books` — what a part of a run adds to the report, to the queue and to the events.
* `Scheduler.JobLog.books` — one job.
* `Scheduler.LastTurn`, `Scheduler.turn_last` — the turn that ends a run.
* `Scheduler.Closes`, `WorksOff.ledger` — all turns of the queue.
* **`Scheduler.run_accounts`** — the report of a run, what is left in its queue, and its events.
-/

namespace Connector

open Work

/-! ## Blocks of events -/

/-- **A job that has ended**: it completed after a number of children, or failed. -/
inductive JobBlock where
  | completed (job outcome : String) (children : Nat)
  | failed (job error : String)

/-- **What an ended job tells of itself as a whole**: its start, its children by number, its end. -/
def JobBlock.events : JobBlock → List Event
  | .completed job outcome children =>
    .jobStarted job :: ((List.range' 1 children).map fun i =>
      .jobForked job (job ++ "#" ++ toString i)) ++ [.jobCompleted job outcome children]
  | .failed job error => [.jobStarted job, .jobFailed job error]

namespace Event

/-- Whether a job has started. -/
def isStart : Event → Bool
  | .jobStarted _ => true
  | _ => false

/-- Whether a job has got a child. -/
def isFork : Event → Bool
  | .jobForked _ _ => true
  | _ => false

/-- The job that has failed, with the message of its error. -/
def failure? : Event → Option (String × String)
  | .jobFailed job error => some (job, error)
  | _ => none

/-- An event from inside a job counts for nothing. -/
lemma not_counted {e : Event} (h : e.isJobLevel = false) :
    e.isStart = false ∧ e.isFork = false ∧ e.failure? = none := by
  cases e <;> first | exact ⟨rfl, rfl, rfl⟩ | cases h

end Event

/-- What comes after the start of a job and what happens inside it is all that counts. -/
lemma Inside.block {inner : List Event} (h : Inside inner) (job : String) (more : List Event) :
    (Event.jobStarted job :: (inner ++ more)).countP Event.isStart =
        more.countP Event.isStart + 1 ∧
      (Event.jobStarted job :: (inner ++ more)).countP Event.isFork = more.countP Event.isFork ∧
      (Event.jobStarted job :: (inner ++ more)).filterMap Event.failure? =
        more.filterMap Event.failure? ∧
      (Event.jobStarted job :: (inner ++ more)).filter Event.isJobLevel =
        .jobStarted job :: more.filter Event.isJobLevel := by
  have starts : inner.countP Event.isStart = 0 :=
    List.countP_eq_zero.2 fun e he => by simp [(Event.not_counted (h e he)).1]
  have forks : inner.countP Event.isFork = 0 :=
    List.countP_eq_zero.2 fun e he => by simp [(Event.not_counted (h e he)).2.1]
  have failures : inner.filterMap Event.failure? = [] :=
    List.filterMap_eq_nil_iff.2 fun e he => (Event.not_counted (h e he)).2.2
  refine ⟨?_, ?_, ?_, ?_⟩
  · rw [List.countP_cons_of_pos rfl, List.countP_append, starts, Nat.zero_add]
  · rw [List.countP_cons_of_neg Bool.false_ne_true, List.countP_append, forks, Nat.zero_add]
  · rw [List.filterMap_cons_none rfl, List.filterMap_append, failures, List.nil_append]
  · rw [List.filter_cons_of_pos rfl, List.filter_append, h.filter, List.nil_append]

namespace Forks

/-- What a job tells of its children and of its end. -/
lemma told_completed (parent outcome : String) (n : Nat) (children : List ForkingJob) :
    (told parent children ++ [Event.jobCompleted parent outcome n]).countP Event.isStart = 0 ∧
      (told parent children ++ [Event.jobCompleted parent outcome n]).countP Event.isFork =
        children.length ∧
      (told parent children ++ [Event.jobCompleted parent outcome n]).filterMap Event.failure? =
        [] ∧
      (told parent children ++ [Event.jobCompleted parent outcome n]).filter Event.isJobLevel =
        told parent children ++ [Event.jobCompleted parent outcome n] := by
  induction children with
  | nil => exact ⟨rfl, rfl, rfl, rfl⟩
  | cons child children ih =>
      obtain ⟨starts, forks, failures, all⟩ := ih
      refine ⟨?_, ?_, ?_, ?_⟩
      · exact (List.countP_cons_of_neg Bool.false_ne_true).trans starts
      · exact (List.countP_cons_of_pos rfl).trans (congrArg (· + 1) forks)
      · exact (List.filterMap_cons_none rfl).trans failures
      · exact (List.filter_cons_of_pos rfl).trans (congrArg (_ :: ·) all)

/-- Children are told of by their numbers. -/
lemma told_childrenOf (parent : String) (token : Token) (rest : List Stage) (n : Nat)
    (contexts : List Context) :
    told parent (childrenOf parent token rest n contexts) =
      (List.range' (n + 1) contexts.length).map fun i =>
        .jobForked parent (parent ++ "#" ++ toString i) := by
  induction contexts generalizing n with
  | nil => rfl
  | cons context contexts ih =>
      have later := ih (n + 1)
      rw [told] at later
      simp only [told, childrenOf, List.map_cons, List.length_cons, List.range'_succ, later]

end Forks

/-! ## Books -/

/-- The failures of a report, with the messages of their errors. -/
def SchedulerReport.messages (report : SchedulerReport) : List (String × String) :=
  report.failures.map fun failure => (failure.1, failure.2.message)

namespace Scheduler

/-- The job that was submitted while the run was under way, if it was. -/
def submitted (s : Scheduler) (st : SchedulerState) : List ForkingJob :=
  if st.lateQueued then s.late.toList else []

/-- **What a part of a run books**: its events are counted in the report, and no job is lost
between the queue, the jobs that have run, their children and the job submitted meanwhile. -/
structure Books (s : Scheduler) (st st' : SchedulerState) (log : List Event) : Prop where
  executed : st'.report.executed = st.report.executed + log.countP Event.isStart
  forked : st'.report.forked = st.report.forked + log.countP Event.isFork
  failures : st'.report.messages = st.report.messages ++ log.filterMap Event.failure?
  balance : st'.queued.length + st'.report.executed + (st.report.forked + (s.submitted st).length) =
    st.queued.length + st.report.executed + (st'.report.forked + (s.submitted st').length)

variable {s : Scheduler} {st st' st'' : SchedulerState}

lemma Books.refl (s : Scheduler) (st : SchedulerState) : s.Books st st [] :=
  ⟨rfl, rfl, (List.append_nil _).symm, rfl⟩

lemma Books.trans {log more : List Event} (h : s.Books st st' log) (h' : s.Books st' st'' more) :
    s.Books st st'' (log ++ more) where
  executed := by rw [h'.executed, h.executed, List.countP_append, Nat.add_assoc]
  forked := by rw [h'.forked, h.forked, List.countP_append, Nat.add_assoc]
  failures := by rw [h'.failures, h.failures, List.filterMap_append, List.append_assoc]
  balance := by
    have := h.balance
    have := h'.balance
    omega

/-- Whether the run is cancelled does not matter to the books. -/
lemma Books.cancelled {log : List Event} (h : s.Books st st' log) : s.Books st st'.cancelled log :=
  ⟨h.executed, h.forked, h.failures, h.balance⟩

/-- The late job is booked where it is queued. -/
lemma TakesLate.books (h : s.TakesLate st st') : s.Books st st' [] := by
  cases h with
  | none => exact .refl s st
  | submitted hs hl =>
      refine ⟨rfl, rfl, (List.append_nil _).symm, ?_⟩
      simp [Scheduler.submitted, hs, hl]
      omega

/-- One job that has run is booked with the events that it tells. -/
lemma books_adding {job : ForkingJob} {rest children : List ForkingJob}
    {failures : List (String × RunError)} {log : List Event}
    (hl : s.TakesLate { st with queued := rest } st') (hq : st.queued = job :: rest)
    (hs : log.countP Event.isStart = 1) (hf : log.countP Event.isFork = children.length)
    (he : failures.map (fun failure => (failure.1, failure.2.message)) =
      log.filterMap Event.failure?) (outputs : List Context) :
    s.Books st (st'.adding children failures outputs) log := by
  have late := hl.books
  have executed : st'.report.executed = st.report.executed := late.executed
  have forked : st'.report.forked = st.report.forked := late.forked
  have messages : st'.report.messages = st.report.messages :=
    late.failures.trans (List.append_nil _)
  have balance : st'.queued.length + st'.report.executed +
      (st.report.forked + (s.submitted st).length) =
        rest.length + st.report.executed + (st'.report.forked + (s.submitted st').length) :=
    late.balance
  refine ⟨?_, ?_, ?_, ?_⟩
  · simp [SchedulerState.adding, executed, hs]
  · simp [SchedulerState.adding, forked, hf]
  · rw [← he, ← messages]
    exact List.map_append
  · have queued : st.queued.length = rest.length + 1 := by simp [hq]
    have same : s.submitted (st'.adding children failures outputs) = s.submitted st' := rfl
    rw [same, queued]
    simp only [SchedulerState.adding, List.length_append]
    omega

section JobLog

variable {job : ForkingJob} {rest : List ForkingJob} {log : List Event}

/-- **A job that lets the run go on is booked**, and tells the block of an ended job. -/
theorem JobLog.books (hq : st.queued = job :: rest)
    (h : s.JobLog job { st with queued := rest } (.ok (.goOn, st')) log) :
    s.Books st st' log ∧ ∃ block : JobBlock, log.filter Event.isJobLevel = block.events := by
  cases h with
  | @completed st' hl inner hi outcome contexts outputs children hc =>
      obtain ⟨starts, forks, failures, all⟩ := hi.block job.name
        (Forks.told job.name children ++ [.jobCompleted job.name outcome children.length])
      obtain ⟨starts', forks', failures', all'⟩ :=
        Forks.told_completed job.name outcome children.length children
      refine ⟨books_adding hl hq (by rw [starts, starts']) (by rw [forks, forks'])
        (by rw [failures, failures']; rfl) outputs,
        .completed job.name outcome children.length, ?_⟩
      have numbered := Forks.told_childrenOf job.name job.token job.stages.tail 0 contexts
      rw [← hc, ← Forks.length_childrenOf job.name job.token job.stages.tail 0, ← hc] at numbered
      rw [all, all', numbered]
      rfl
  | @failed st' hl inner hi e =>
      obtain ⟨starts, forks, failures, all⟩ := hi.block job.name [.jobFailed job.name e.message]
      refine ⟨books_adding hl hq starts ?_ ?_ [], .failed job.name e.message, all⟩
      · exact forks
      · exact failures.symm

/-- A job that halts the run is booked too, but tells of its start only. -/
lemma JobLog.books_halt (hq : st.queued = job :: rest)
    (h : s.JobLog job { st with queued := rest } (.ok (.halt, st')) log) :
    s.Books st st' log ∧ st'.report.cancelled = true ∧
      log.filter Event.isJobLevel = [.jobStarted job.name] := by
  cases h with
  | @overran st' hl inner hi =>
      obtain ⟨starts, forks, failures, all⟩ := hi.block job.name []
      rw [List.append_nil] at starts forks failures all
      refine ⟨(books_adding hl hq starts ?_ ?_ []).cancelled, rfl, all⟩
      · exact forks
      · exact failures.symm

/-- A job that breaks the run off never ends, and tells of its start only. -/
lemma JobLog.of_error {e : Halt} (h : s.JobLog job st (.error e) log) :
    e = .hung ∧ log.filter Event.isJobLevel = [.jobStarted job.name] := by
  cases h with
  | hung hi =>
      obtain ⟨-, -, -, all⟩ := hi.block job.name []
      rw [List.append_nil] at all
      exact ⟨rfl, all⟩

end JobLog

/-! ## The turn that ends a run -/

section LastTurn

variable {job : ForkingJob} {w u : World}

/-- A job comes to nothing where it overruns. -/
lemma outcome_none (h : s.outcome job w = (.ok none, u)) :
    s.Overruns ⟨job, w⟩ ∧ u = (job.run w).2 := by
  simp only [outcome, settle] at h
  rcases hx : job.run w with ⟨(e | _) | f, v⟩ <;> simp only [hx] at h
  · cases h
  · split_ifs at h with hc <;> cases h
    exact ⟨⟨congrArg Prod.fst hx, by rw [hx]; exact hc⟩, rfl⟩
  · cases h

/-- A job is waited for without end where it hangs and the run is not cancelled. -/
lemma outcome_hung (h : s.outcome job w = (.error .hung, u)) :
    Visit.Hangs ⟨job, w⟩ ∧ (job.run w).2.isStopRequested s.cancel = false := by
  simp only [outcome, settle] at h
  rcases hx : job.run w with ⟨(e | _) | f, v⟩ <;> simp only [hx] at h
  · cases h
  · split_ifs at h with hc
    · cases h
    · exact ⟨congrArg Prod.fst hx, Bool.eq_false_iff.2 hc⟩
  · cases h

/-- To take the late job in does not change the world. -/
lemma queueLate_world (s : Scheduler) (st : SchedulerState) (w : World) :
    (s.queueLate st w).2 = w := by
  rw [queueLate, bind_ok (get_apply w)]
  rcases s.late with _ | job
  · rfl
  · rcases w.rung with _ | states
    · rfl
    · rcases hl : st.lateQueued <;> rfl

/-- **A job halts a run only where it overruns its cancellation.** -/
lemma runJob_halt (h : s.runJob job st w = (.ok (.halt, st'), u)) :
    s.Overruns ⟨job, s.relaying job w⟩ ∧ u.isStopRequested s.cancel = true := by
  have told : s.relayTo (some job.token) w = (.ok (), s.relaying job w) := rfl
  rw [runJob, bind_ok told] at h
  obtain ⟨r, w₂, hr, h⟩ := exists_of_bind_apply h
  obtain ⟨_, w₃, hw, h⟩ := exists_of_bind_apply h
  obtain ⟨st₁, w₄, hq, h⟩ := exists_of_bind_apply h
  rcases r with _ | e | forks
  · cases h
    obtain ⟨overruns, rfl⟩ := outcome_none hr
    have same : u = w₃ := by rw [← s.queueLate_world st w₃, hq]
    have stops : w₃.stops = (job.run (s.relaying job w)).2.stops := by cases hw; rfl
    rw [World.isStopRequested, same, stops]
    exact ⟨overruns, overruns.2⟩
  · cases h
  · obtain ⟨_, _, -, h⟩ := exists_of_bind_apply h
    cases h

/-- **A run waits for ever only for a job that hangs** while the run is not cancelled. -/
lemma runJob_hung (h : s.runJob job st w = (.error .hung, u)) :
    Visit.Hangs ⟨job, s.relaying job w⟩ ∧
      (job.run (s.relaying job w)).2.isStopRequested s.cancel = false := by
  have told : s.relayTo (some job.token) w = (.ok (), s.relaying job w) := rfl
  rw [runJob, bind_ok told] at h
  -- what comes after the job is not waited for
  refine outcome_hung (Quiet.of_bind_hung (fun r => ?_) h)
  refine (s.relayTo_quiet none).bind fun _ => (s.queueLate_quiet _).bind fun st => ?_
  rcases r with _ | e | forks
  · exact Quiet.pure _
  · exact Quiet.pure _
  · exact (collect_quiet forks _).bind fun _ => Quiet.pure _

end LastTurn

/-- **The turn that ends a run**, what it comes to, and what it tells of the job that it runs.  No
job may start any more, or the job that the turn runs overruns its cancellation, or the turn waits
for this job without end. -/
inductive LastTurn (s : Scheduler) (last : SchedulerState) (v : World) :
    Except Halt SchedulerState → List Event → Prop where
  | idle {st : SchedulerState} (hv : s.visit? last v = none)
      (h : st.report.cancelled = false → st.queued = []) : LastTurn s last v (.ok st) []
  | overran {st : SchedulerState} {visit : Visit} (hv : s.visit? last v = some visit)
      (ho : s.Overruns visit) (h : st.report.cancelled = true) :
      LastTurn s last v (.ok st) [.jobStarted visit.job.name]
  | hung {visit : Visit} (hv : s.visit? last v = some visit) (hh : visit.Hangs)
      (hs : (visit.job.run visit.start).2.isStopRequested s.cancel = false) :
      LastTurn s last v (.error .hung) [.jobStarted visit.job.name]

/-- A turn that does not let the run go on is the last one, and it is booked. -/
theorem turn_last {w u : World} {r : Except Halt SchedulerState}
    (h : s.turn st w = (r.map (Prod.mk .halt), u)) :
    ∃ told, u.events = w.events ++ told ∧ s.LastTurn st w r (told.filter Event.isJobLevel) ∧
      ∀ st', r = .ok st' → s.Books st st' told := by
  obtain ⟨v, looked, ⟨none, halts⟩ | ⟨job, rest, hq, some, runs⟩⟩ := s.turn_cases st w
  · have quiet : v.events = w.events ++ [] := by
      rw [List.append_nil]
      rcases looked with rfl | rfl <;> rfl
    rcases r with e | st' <;> rcases halts with cancelled | ⟨empty, idle⟩
    · cases h.symm.trans cancelled
    · cases h.symm.trans idle
    · cases h.symm.trans cancelled
      refine ⟨[], quiet, .idle none nofun, ?_⟩
      rintro _ ⟨⟩
      exact (Books.refl s st).cancelled
    · cases h.symm.trans idle
      refine ⟨[], quiet, .idle none fun _ => empty, ?_⟩
      rintro _ ⟨⟩
      exact .refl s st
  · have ran := runs.symm.trans h
    have same : v.events = w.events := by rcases looked with rfl | rfl <;> rfl
    obtain ⟨t, ht, log⟩ := s.runJob_leaves job { st with queued := rest } v
    rw [ran] at ht log
    refine ⟨t.events, by rw [← same]; exact congrArg Trail.events ht, ?_⟩
    rcases r with e | st'
    · obtain ⟨rfl, told⟩ := log.of_error
      obtain ⟨hangs, going⟩ := runJob_hung ran
      rw [told]
      exact ⟨.hung some hangs going, nofun⟩
    · obtain ⟨books, cancelled, told⟩ := log.books_halt hq
      rw [told]
      refine ⟨.overran some (runJob_halt ran).1 cancelled, ?_⟩
      rintro _ ⟨⟩
      exact books

/-! ## All turns -/

/-- **Turns that let a run go on**, none or more. -/
inductive Turns (s : Scheduler) : SchedulerState → World → SchedulerState → World → Prop where
  | none {st : SchedulerState} {w : World} : Turns s st w st w
  | more {st st' last : SchedulerState} {w u v : World}
      (h : s.turn st w = (.ok (.goOn, st'), u)) (ht : Turns s st' u last v) : Turns s st w last v

/-- **How the books of a run are closed.**  All turns but the last one tell of jobs that have
ended, one after the other; only the job of the last one may have no end. -/
inductive Closes (s : Scheduler) (st : SchedulerState) (w : World) :
    Except Halt SchedulerState → World → List Event → Prop where
  | intro {last : SchedulerState} {v u : World} {r : Except Halt SchedulerState}
      {before told : List Event} (blocks : List JobBlock) (ht : s.Turns st w last v)
      (hv : v.events = w.events ++ before)
      (hb : before.filter Event.isJobLevel = blocks.flatMap JobBlock.events)
      (hr : s.turn last v = (r.map (Prod.mk .halt), u)) (hu : u.events = v.events ++ told)
      (hl : s.LastTurn last v r (told.filter Event.isJobLevel)) :
      Closes s st w r u (before ++ told)

section Closes

variable {w u v : World} {r : Except Halt SchedulerState} {log : List Event}

/-- The events are those that the run has told. -/
lemma Closes.told (h : s.Closes st w r u log) : u.events = w.events ++ log := by
  cases h with
  | intro blocks ht hv hb hr hu hl => rw [hu, hv, List.append_assoc]

/-- One more turn has gone before, and has told of a job that has ended. -/
lemma Closes.cons {more : List Event} {block : JobBlock} (h : s.Closes st' v r u log)
    (ht : s.turn st w = (.ok (.goOn, st'), v)) (hv : v.events = w.events ++ more)
    (hb : more.filter Event.isJobLevel = block.events) : s.Closes st w r u (more ++ log) := by
  cases h with
  | @intro last v' u r before told blocks ht' hv' hb' hr hu hl =>
      rw [← List.append_assoc]
      refine .intro (block :: blocks) (.more ht ht') ?_ ?_ hr hu hl
      · rw [hv', hv, List.append_assoc]
      · rw [List.filter_append, hb, hb', List.flatMap_cons]

/-- A run that comes to no report waits without end. -/
lemma Closes.of_error {e : Halt} (h : s.Closes st w (.error e) u log) : e = .hung := by
  cases h with
  | @intro last v u r before told blocks ht hv hb hr hu hl =>
      generalize told.filter Event.isJobLevel = final at hl
      cases hl
      rfl

/-- **Where a run was not cancelled**, nothing is left in the queue, and every job has ended. -/
lemma Closes.settled (h : s.Closes st w (.ok st') u log) (hc : st'.report.cancelled = false) :
    st'.queued = [] ∧
      ∃ blocks : List JobBlock, log.filter Event.isJobLevel = blocks.flatMap JobBlock.events := by
  cases h with
  | @intro last v u r before told blocks ht hv hb hr hu hl =>
      rw [List.filter_append, hb]
      generalize told.filter Event.isJobLevel = final at hl
      cases hl with
      | idle hv h => exact ⟨h hc, blocks, List.append_nil _⟩
      | overran hv ho h => exact absurd (hc.symm.trans h) Bool.false_ne_true

end Closes

end Scheduler

/-- **All turns of a queue**, by induction on the turns. -/
theorem WorksOff.ledger {s : Scheduler} {st : SchedulerState} {w : World}
    {out : Except Halt SchedulerReport × World} (h : WorksOff s st w out) :
    ∃ r log, out.1 = r.map (·.report) ∧ s.Closes st w r out.2 log ∧
      ∀ st', r = .ok st' → s.Books st st' log := by
  have last {st : SchedulerState} {w u : World} {r : Except Halt SchedulerState}
      (h : s.turn st w = (r.map (Prod.mk .halt), u)) :
      ∃ log, s.Closes st w r u log ∧ ∀ st', r = .ok st' → s.Books st st' log := by
    obtain ⟨told, hu, turn, books⟩ := Scheduler.turn_last h
    exact ⟨[] ++ told, .intro [] .none (List.append_nil _).symm rfl h hu turn, books⟩
  induction h with
  | @halts st st' w u h =>
      obtain ⟨log, closes, books⟩ := last (r := .ok st') h
      exact ⟨.ok st', log, rfl, closes, books⟩
  | @breaks st w u e h =>
      obtain ⟨log, closes, books⟩ := last (r := .error e) h
      exact ⟨.error e, log, rfl, closes, books⟩
  | @turns st st' w u out h _ ih =>
      obtain ⟨t, ht, log⟩ := s.turn_leaves st w
      rw [h] at ht log
      obtain ⟨r, later, hr, closes, books⟩ := ih
      cases log with
      | ran hq hj =>
          obtain ⟨first, block, hb⟩ := hj.books hq
          refine ⟨r, t.events ++ later, hr, closes.cons h (congrArg Trail.events ht) hb, ?_⟩
          exact fun st' hs => first.trans (books st' hs)

/-- A queue is worked off to a report, or a job is waited for without end. -/
lemma WorksOff.of_error {s : Scheduler} {st : SchedulerState} {w u : World} {e : Halt}
    (h : WorksOff s st w (.error e, u)) : e = .hung := by
  obtain ⟨r, log, hr, closes, -⟩ := h.ledger
  rcases r with e' | st'
  · cases hr
    exact closes.of_error
  · cases hr

namespace Scheduler

/-- **The report of a run, what is left in its queue, and its events agree.** -/
structure Accounts (s : Scheduler) (roots : List ForkingJob) (st : SchedulerState)
    (log : List Event) : Prop where
  executed : st.report.executed = log.countP Event.isStart
  forked : st.report.forked = log.countP Event.isFork
  failures : st.report.messages = log.filterMap Event.failure?
  balance : (roots ++ s.submitted st).length + st.report.forked =
    st.report.executed + st.queued.length
  /-- Where the run was not cancelled, nothing is left in the queue and every job has ended. -/
  settled : st.report.cancelled = false → st.queued = [] ∧
    ∃ blocks : List JobBlock, log.filter Event.isJobLevel = blocks.flatMap JobBlock.events

/-- The books of a whole run, from an empty report on. -/
lemma Closes.accounts {s : Scheduler} {roots : List ForkingJob} {st : SchedulerState}
    {w u : World} {log : List Event} (h : s.Closes ⟨{}, roots, false⟩ w (.ok st) u log)
    (hb : s.Books ⟨{}, roots, false⟩ st log) : s.Accounts roots st log where
  executed := hb.executed.trans (Nat.zero_add _)
  forked := hb.forked.trans (Nat.zero_add _)
  failures := hb.failures
  balance := by
    have balance : st.queued.length + st.report.executed + (0 + 0) =
        roots.length + 0 + (st.report.forked + (s.submitted st).length) := hb.balance
    rw [List.length_append]
    omega
  settled := h.settled

/-- **The books of a run are in order.**  Of any jobs with any stages, in any world: with any
answers, stores and functions, with cancellations, stop signals and a further job at any moment,
and with jobs that overrun.  A run that comes to no report waits for ever for the last job that it
has started. -/
theorem run_accounts (s : Scheduler) (roots : List ForkingJob) (w : World) :
    ∃ r log, (s.run roots w).1 = r.map (·.report) ∧
      (s.run roots w).2.events = w.events ++ log ∧
      s.Closes ⟨{}, roots, false⟩ w r (s.run roots w).2 log ∧
      ∀ st, r = .ok st → s.Accounts roots st log := by
  have turns : WorksOff s ⟨{}, roots, false⟩ w (s.run roots w) := (run_worksOff s roots w _).2 rfl
  obtain ⟨r, log, hr, closes, books⟩ := turns.ledger
  exact ⟨r, log, hr, closes.told, closes, fun st hs => (hs ▸ closes).accounts (books st hs)⟩

/-! A text in two pieces, and a request for each of them.  The first one is answered; the second one
is not, and while it is waited for the run is cancelled. -/

/-- A job that forks for the pieces of a text, and sends a request for each. -/
def fetchPieces : ForkingJob :=
  let pieces : Stage := .split ⟨"pieces", ⟨"a,b", .literal⟩, some ",", "piece"⟩
  let fetch : Stage := .http
    { name := "fetch"
      options := ⟨⟨"piece", .literal⟩, "GET", [], [], none⟩
      before := ⟨"pre_process", [], []⟩
      after := ⟨"post_process", [], []⟩
      repetition := ⟨"loop", []⟩
      checkpoint := none }
  ⟨"both", [], [pieces, fetch], [1]⟩

/-- A world that answers one request, and in which the next one calls for a stop. -/
def unansweredPiece : World where
  functions := []
  network := .scripted
  answers := [.response ⟨200, [], ""⟩, .silence]
  alarm := some ⟨2, [[0]]⟩

theorem run_accounts_pieces :
    ((run ⟨[0], none, none⟩ [fetchPieces] unansweredPiece).2.events.filter Event.isJobLevel).map
        Event.job = ["both", "both", "both", "both", "both#1", "both#1", "both#2"] ∧
      ∃ r log, (run ⟨[0], none, none⟩ [fetchPieces] unansweredPiece).1 = r.map (·.report) ∧
        (run ⟨[0], none, none⟩ [fetchPieces] unansweredPiece).2.events = [] ++ log ∧
        Closes ⟨[0], none, none⟩ ⟨{}, [fetchPieces], false⟩ unansweredPiece r
          (run ⟨[0], none, none⟩ [fetchPieces] unansweredPiece).2 log ∧
        ∀ st, r = .ok st → Accounts ⟨[0], none, none⟩ [fetchPieces] st log :=
  ⟨by decide +kernel, run_accounts ⟨[0], none, none⟩ [fetchPieces] unansweredPiece⟩

end Scheduler

end Connector
