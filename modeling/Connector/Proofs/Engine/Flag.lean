import Connector.Proofs.Engine.Stop
import Connector.Proofs.Engine.Termination
import Connector.Proofs.Forest.Stops

/-!
# The flag of a stopped run

The report of an engine says whether its run was stopped.  The flag tells of the stop, which was
asked for before the run ended, and it is set whenever the stop kept a request, a job or a child
from starting.  It is set as well when the stop came behind the last start, where nothing was left
that it could prevent.

* `Engine.work` — all that a run has to start, its children among them.
* `Scheduler.Turns.seen` — jobs are cancelled where the stop was seen.
* `Engine.Flagged` — what the flag tells.
* **`Engine.run_flagged`** — of every run, with stops at any moment.
* `Engine.not_tellsPrevented` — a stop that prevents nothing sets the flag.
-/

namespace Connector

open Work

/-! ## Cancelled jobs -/

namespace Scheduler

variable {s : Scheduler} {stop run : Token} {st st' : SchedulerState} {w u : World}

/-- A turn that lets a run of jobs go on does not cancel it. -/
lemma TurnLog.cancelled_eq {log : List Event} (h : s.TurnLog st (.ok (.goOn, st')) log) :
    st'.report.cancelled = st.report.cancelled := by
  cases h with
  | ran hq hj =>
      cases hj with
      | completed hl => cases hl <;> rfl
      | failed hl => cases hl <;> rfl

/-- The worlds of a run in which only the stop of the engine is asked for. -/
lemma turn_asks {p : Progress} (ha : Token.Apart stop run) (hs : s.Serves stop run)
    (hq : ∀ job ∈ st.queued, run <+: job.token) (hw : w.Asks stop run)
    (h : s.turn st w = (.ok (p, st'), u)) : u.Asks stop run := by
  cases turn_beside ha hs hq hw.beside with
  | same _ hv beside => cases h.symm.trans hv; exact beside.asks
  | cut hv _ asks => cases h.symm.trans hv; exact asks

/-- **A turn cancels a run of jobs where the stop is seen.** -/
lemma turn_cancelled (ha : Token.Apart stop run) (hs : s.Serves stop run)
    (hq : ∀ job ∈ st.queued, run <+: job.token) (hw : w.Asks stop run)
    (h : s.turn st w = (.ok (.halt, st'), u)) (hc : st.report.cancelled = false)
    (cancelled : st'.report.cancelled = true) : u.isStopRequested stop = true := by
  have asks := turn_asks ha hs hq hw h
  obtain ⟨report, queued, late⟩ := st
  have checked (waiting : Bool) := check_asks ha hs hw waiting ⟨report, queued, late⟩
  rw [turn] at h
  rcases queued with _ | ⟨job, rest⟩
  · dsimp only at h
    rw [bind_ok (checked false)] at h
    rcases seen : w.look.look.isStopRequested stop with _ | _ <;> rw [seen] at h <;> cases h <;>
      exact absurd (hc.symm.trans cancelled) Bool.false_ne_true
  · dsimp only at h
    rw [bind_ok (checked true)] at h
    rcases seen : w.look.look.isStopRequested stop with _ | _ <;> rw [seen] at h
    · have reached : u.isStopRequested s.cancel = true := (runJob_halt h).2
      have missed := asks.notStopped ha hs.cancel
      exact absurd (missed.symm.trans reached) Bool.false_ne_true
    · cases h
      exact seen

/-- **Jobs are cancelled where the stop was seen**, by induction on the turns. -/
lemma Turns.seen {last : SchedulerState} {v : World} (ha : Token.Apart stop run)
    (hs : s.Serves stop run) (ht : s.Turns st w last v)
    (h : s.turn last v = (.ok (.halt, st'), u)) (hq : ∀ job ∈ st.queued, run <+: job.token)
    (hw : w.Asks stop run) (hc : st.report.cancelled = false)
    (cancelled : st'.report.cancelled = true) : u.isStopRequested stop = true := by
  induction ht with
  | none => exact turn_cancelled ha hs hq hw h hc cancelled
  | @more st st₁ last w w₁ v first ht ih =>
      obtain ⟨t, -, log⟩ := s.turn_leaves st w
      rw [first] at log
      exact ih h (log.tokens hs hq) (turn_asks ha hs hq hw first) (log.cancelled_eq.trans hc)

end Scheduler

/-! ## Starts -/

/-- A whole job starts once. -/
lemma WholeJob.starts {log : List Event} (h : WholeJob log) : log.countP Event.isStart = 1 := by
  cases h with
  | @intro last inner hi hl =>
      have inside : inner.countP Event.isStart = 0 :=
        List.countP_eq_zero.2 fun e he => by simp [(hi e he).1]
      have ending : last.isStart = false := by cases last <;> first | rfl | cases hl
      rw [List.countP_cons_of_pos rfl, List.countP_append, inside, List.countP_singleton, ending]
      rfl

namespace Engine

variable {e : Engine} {stop run : Token} {w u : World}

namespace Course

variable {index : Nat} {requests : List Request} {context : Context} {legs : List Leg}
  {out : Except Halt (Except EngineError RequestRun)}

/-- Each leg of a run that reports starts once. -/
lemma starts {r : RequestRun} (h : Course stop run index requests context w legs out u)
    (ho : out = .ok (.ok r)) : (legs.flatMap Leg.log).countP Event.isStart = r.reports.length := by
  have results := (h.reports ho).1
  have once : ∀ leg ∈ legs, leg.log.countP Event.isStart = 1 := by
    intro leg hl
    refine (Leg.whole fun hung => ?_).starts
    have ended := h.of_hung leg hl hung
    cases ho.symm.trans ended
  have count : legs.length = r.reports.length := by simpa using congrArg List.length results
  have ones : legs.map (List.countP Event.isStart ∘ Leg.log) = legs.map fun _ => 1 :=
    List.map_congr_left once
  rw [List.countP_flatMap, ones, ← count]
  simp

/-- A run of requests is cut where the stop is seen. -/
lemma stopped {r : RequestRun} (h : Course stop run index requests context w legs out u)
    (ho : out = .ok (.ok r)) (cut : r.cut = true) : u.isStopRequested stop = true := by
  induction h generalizing r with
  | done => cases ho; cases cut
  | cut h => exact h
  | hung h hl hr => cases ho
  | failed h hl hr => cases ho
  | @next index request rest context w u leg legs report out h hl hr hc ih =>
      rcases out with e | e | later
      · cases ho
      · cases ho
      · cases ho
        exact ih rfl cut

/-- There are no more reports than requests, and fewer only after a cut. -/
lemma length_reports {r : RequestRun} (h : Course stop run index requests context w legs out u)
    (ho : out = .ok (.ok r)) : r.reports.length ≤ requests.length ∧
      (r.cut = false → r.reports.length = requests.length) := by
  obtain ⟨results, all⟩ := h.reports ho
  have count : legs.length = r.reports.length := by simpa using congrArg List.length results
  refine ⟨?_, fun uncut => ?_⟩
  · simpa [count] using h.requests_prefix.length_le
  · simpa [count] using congrArg List.length (all uncut)

end Course

/-- **All that a run has to start**: the requests, the jobs, and the children that were forked. -/
def work (e : Engine) (r : EngineReport) : Nat :=
  e.requests.length + (e.jobs.length + (r.jobs.map (·.forked)).getD 0)

/-- **What the flag of a report tells**, next to the events of the run and the world that it
leaves. -/
structure Flagged (e : Engine) (stop : Token) (r : EngineReport) (log : List Event) (u : World) :
    Prop where
  /-- It tells of the stop. -/
  asked : r.stopped = true ↔ u.isStopRequested stop = true
  /-- It is set where something was never started. -/
  prevented : log.countP Event.isStart < e.work r → r.stopped = true
  /-- Nothing else is ever started. -/
  within : log.countP Event.isStart ≤ e.work r

/-- Where the jobs are not run, the flag tells of the stop, which was seen if there was a cut or if
there are jobs. -/
lemma afterRequests_flag {r : RequestRun} (run : Token)
    (hcut : r.cut = true → w.isStopRequested stop = true)
    (h : r.cut = true ∨ e.jobs = [] ∨ w.look.isStopRequested stop = true) :
    ∃ u, u.events = w.events ∧
      e.afterRequests stop run r w =
        (.ok (.ok ⟨r.reports, none, r.context, u.isStopRequested stop⟩), u) ∧
      (r.cut = true ∨ e.jobs ≠ [] → u.isStopRequested stop = true) := by
  rw [afterRequests]
  rcases hc : r.cut with _ | _
  · rcases hj : e.jobs with _ | ⟨job, jobs⟩
    · exact ⟨w.look, rfl, rfl, by simp⟩
    · have seen : w.look.isStopRequested stop = true := by simpa [hc, hj] using h
      refine ⟨w.look, rfl, ?_, fun _ => seen⟩
      rw [if_neg Bool.false_ne_true, if_neg (by simp), bind_ok (checkStop_apply stop w), seen]
      rfl
  · exact ⟨w, rfl, by rw [hcut hc]; rfl, fun _ => hcut hc⟩

lemma length_forkingJobs (run : Token) (context : Context) (index : Nat) (jobs : List LoadedJob) :
    (forkingJobs run context index jobs).length = jobs.length := by
  induction jobs generalizing index with
  | nil => rfl
  | cons job rest ih => rw [forkingJobs, List.length_cons, ih, List.length_cons]

/-- **The jobs of a run**: they are cancelled where the stop was seen, and whenever one of them or a
child was never started. -/
lemma runJobs_flag (ha : Token.Apart stop run) (e : Engine) (context : Context)
    (hw : w.Asks stop run) {jobs : SchedulerReport}
    (h : e.runJobs stop run context w = (.ok jobs, u)) :
    ∃ log, u.events = w.events ++ log ∧ log.countP Event.isStart = jobs.executed ∧
      jobs.executed ≤ e.jobs.length + jobs.forked ∧
      (jobs.executed < e.jobs.length + jobs.forked → jobs.cancelled = true) ∧
      (jobs.cancelled = true → u.isStopRequested stop = true) := by
  have serves : Scheduler.Serves stop run ⟨run.child 0, some stop, none⟩ :=
    ⟨List.prefix_append _ _, rfl, rfl⟩
  have tokens : ∀ job ∈ forkingJobs run context (e.requests.length + 1) e.jobs,
      run <+: job.token := by
    intro j hj
    obtain ⟨job, -, i, rfl⟩ := of_mem_forkingJobs hj
    exact List.prefix_append _ _
  have turns : WorksOff ⟨run.child 0, some stop, none⟩ _ w (.ok jobs, u) :=
    (Scheduler.run_worksOff _ (forkingJobs run context (e.requests.length + 1) e.jobs) w _).2 h
  obtain ⟨r, log, hr, closes, books⟩ := turns.ledger
  rcases r with halt | st
  · cases hr
  · obtain rfl : jobs = st.report := Except.ok.inj hr
    have accounts := closes.accounts (books st rfl)
    have balance := accounts.balance
    have none_late : Scheduler.submitted ⟨run.child 0, some stop, none⟩ st = [] := by
      rw [Scheduler.submitted]
      split <;> rfl
    rw [none_late, List.append_nil, length_forkingJobs] at balance
    refine ⟨log, closes.told, accounts.executed.symm, by omega, fun left => ?_,
      fun cancelled => ?_⟩
    · by_contra uncancelled
      have empty := (accounts.settled (by simpa using uncancelled)).1
      rw [empty, List.length_nil] at balance
      omega
    · cases closes with
      | intro blocks ht hv hb halts hu hl => exact ht.seen ha serves halts tokens hw rfl cancelled

section

variable {rr : RequestRun} {log : List Event} {r : EngineReport}

/-- The flag of a report without jobs, from what is known of the requests. -/
lemma flagged_of_requests (starts : log.countP Event.isStart = rr.reports.length)
    (most : rr.reports.length ≤ e.requests.length)
    (all : rr.cut = false → rr.reports.length = e.requests.length)
    (seen : rr.cut = true → w.isStopRequested stop = true)
    (idle : rr.cut = true ∨ e.jobs = [] ∨ w.look.isStopRequested stop = true)
    (hr : e.afterRequests stop run rr w = (.ok (.ok r), u)) :
    u.events = w.events ∧ e.Flagged stop r log u := by
  obtain ⟨u', quiet, ends, reached⟩ := afterRequests_flag run seen idle
  cases hr.symm.trans ends
  refine ⟨quiet, Iff.rfl, fun less => reached ?_, ?_⟩
  · by_contra whole
    simp only [not_or, Bool.not_eq_true, not_not] at whole
    have count := all whole.1
    simp [starts, count, work, whole.2] at less
  · rw [starts, work]
    omega

/-- The flag of a report with jobs, all requests having been run. -/
lemma flagged_of_jobs (ha : Token.Apart stop run) (hw : w.Asks stop run)
    (starts : log.countP Event.isStart = e.requests.length) (uncut : rr.cut = false)
    (some_jobs : e.jobs ≠ []) (running : w.look.isStopRequested stop = false)
    (hr : e.afterRequests stop run rr w = (.ok (.ok r), u)) :
    ∃ more, u.events = w.events ++ more ∧ e.Flagged stop r (log ++ more) u := by
  rw [afterRequests_of_some uncut some_jobs running] at hr
  rcases ran : e.runJobs stop run rr.context w.look with ⟨halt | jobs, u'⟩ <;> rw [ran] at hr
  · cases hr
  obtain ⟨more, told, executed, within, left, cancelled⟩ :=
    runJobs_flag ha e rr.context hw.look ran
  cases hr
  have count : (log ++ more).countP Event.isStart = e.requests.length + jobs.executed := by
    rw [List.countP_append, starts, executed]
  refine ⟨more, told, ?_, fun less => ?_, ?_⟩
  · rw [Bool.or_eq_true, or_iff_left_iff_imp]
    exact fun h => World.isStopRequested_look_of (cancelled h)
  · rw [count, work] at less
    exact Bool.or_eq_true_iff.mpr (.inr (left (Nat.lt_of_add_lt_add_left less)))
  · rw [count, work]
    exact Nat.add_le_add_left within _

end

/-- **The flag of a report**, after every run that comes to one: of any requests and jobs, from any
context, with any functions, stores and answers, and with the stop at any moment. -/
theorem run_flagged (e : Engine) (ha : Token.Apart stop run) (hw : w.Asks stop run)
    {r : EngineReport} (hr : e.run stop run w = (.ok (.ok r), u)) :
    ∃ log, u.events = w.events ++ log ∧ e.Flagged stop r log u := by
  obtain ⟨legs, course⟩ := runRequests_course stop run 1 e.requests e.context w
  rcases requests : runRequests stop run 1 e.requests e.context w with ⟨halt | error | rr, v⟩ <;>
    rw [requests] at course
  · cases (run_of_halt requests).symm.trans hr
  · cases (run_of_error requests).symm.trans hr
  rw [run_of_ok requests] at hr
  have starts := course.starts rfl
  obtain ⟨most, all⟩ := course.length_reports rfl
  by_cases idle : rr.cut = true ∨ e.jobs = [] ∨ v.look.isStopRequested stop = true
  · obtain ⟨quiet, flagged⟩ :=
      flagged_of_requests starts most all (course.stopped rfl) idle hr
    exact ⟨legs.flatMap Leg.log, quiet.trans course.events, flagged⟩
  · simp only [not_or, Bool.not_eq_true] at idle
    obtain ⟨uncut, some_jobs, running⟩ := idle
    obtain ⟨more, told, flagged⟩ := flagged_of_jobs ha (course.ends ha hw).1
      (starts.trans (all uncut)) uncut some_jobs running hr
    refine ⟨legs.flatMap Leg.log ++ more, ?_, flagged⟩
    rw [told, course.events, List.append_assoc]

/-- An engine with a request for items and nothing else. -/
def itemsOnly : Engine := ⟨[itemsRequest], [], .info, none, []⟩

/-- A report of a run, if it comes to one. -/
def reported : Except Halt (Except EngineError EngineReport) → Option EngineReport
  | .ok (.ok r) => some r
  | _ => none

theorem run_flagged_items :
    Token.Apart [0] [1] ∧ (itemsWorld.stopAfter [0] 1).Asks [0] [1] ∧
      ∃ r u, itemsEngine.run [0] [1] (itemsWorld.stopAfter [0] 1) = (.ok (.ok r), u) ∧
        ∃ log, u.events = [] ++ log ∧ itemsEngine.Flagged [0] r log u := by
  have apart : Token.Apart [0] [1] := ⟨by decide, by decide⟩
  have unstopped : itemsWorld.Unstopped := ⟨rfl, rfl, rfl⟩
  have asks : (itemsWorld.stopAfter [0] 1).Asks [0] [1] := (unstopped.beside rfl [1] 1).asks
  have reports : (reported (itemsEngine.run [0] [1] (itemsWorld.stopAfter [0] 1)).1).isSome := by
    decide +kernel
  rcases ran : itemsEngine.run [0] [1] (itemsWorld.stopAfter [0] 1) with ⟨halt | error | r, u⟩ <;>
    rw [ran] at reports
  · cases reports
  · cases reports
  · exact ⟨apart, asks, r, u, rfl, run_flagged itemsEngine apart asks ran⟩

/-- **The flag tells of something that was prevented**, and of nothing else. -/
def TellsPrevented (e : Engine) (stop run : Token) (w : World) : Prop :=
  ∀ r u, e.run stop run w = (.ok (.ok r), u) → (r.stopped = true ↔
    (u.events.drop w.events.length).countP Event.isStart < e.work r)

/-- **The flag may tell of a stop that prevented nothing**: one that comes while the only request is
under way. -/
theorem not_tellsPrevented :
    ¬ itemsOnly.TellsPrevented [0] [1] (itemsWorld.stopAfter [0] 1) := by
  intro tells
  have report : (reported (itemsOnly.run [0] [1] (itemsWorld.stopAfter [0] 1)).1).map
      (fun r => (r.stopped, itemsOnly.work r)) = some (true, 1) := by decide +kernel
  have starts : ((itemsOnly.run [0] [1] (itemsWorld.stopAfter [0] 1)).2.events.drop 0).countP
      Event.isStart = 1 := by decide +kernel
  rcases ran : itemsOnly.run [0] [1] (itemsWorld.stopAfter [0] 1) with ⟨halt | error | r, u⟩ <;>
    rw [ran] at report starts
  · cases report
  · cases report
  · obtain ⟨flag, all⟩ := Prod.mk.inj (Option.some.inj report)
    have less : (u.events.drop 0).countP Event.isStart < itemsOnly.work r :=
      (tells r u ran).mp flag
    rw [all, starts] at less
    exact Nat.lt_irrefl 1 less

end Engine

end Connector
