import Connector.Proofs.Engine.Course
import Connector.Proofs.Forest.Life
import Connector.Proofs.Loop.Termination

/-!
# Runs that come to an end

An engine runs its request jobs, and then its scheduler takes turns until its queue is empty.  The
queue may grow at every turn, but what a job puts into it has fewer stages than the job itself.  So
where every request is answered, nothing can keep a run from its end but the loops that it starts,
and these share the answers: all of them together send as many requests as there are answers, and
perhaps one more each.

* `RequestJob.starts`, `ForkingJob.starts` — the loop that a job starts, if it starts one.
* `RequestJob.run_ends`, `ForkingJob.run_ends` — jobs come to an end.
* `Forks.childrenFrom_eq_children` — and so do their children.
* `Tour`, `WorksOff.tour` — the jobs that a scheduler runs, turn after turn.
* `Tour.ends`, `Engine.Course.spends` — all turns of a queue, and all request jobs.
* `Engine.Goes`, `Engine.run_goes` — the whole of every run.
* **`Engine.run_completes`** — every run comes to an end, within its bound.
-/

namespace Connector

open Work

/-! ## Request jobs -/

namespace RequestJob

/-- **The loop that a request job starts**, unless it sees a stop first. -/
def starts (j : RequestJob) (w : World) : List Loop.Start :=
  if (j.begun w).isStopRequested j.token then [] else [⟨j.toLoop, j.context, j.begun w⟩]

lemma wire_begun (j : RequestJob) (w : World) : (j.begun w).wire = w.wire := rfl

lemma wire_close (j : RequestJob) (r : Except Halt LoopResult × World) :
    (j.close r).2.wire = r.2.wire := by
  rcases r with ⟨(e | _) | r, u⟩ <;> rfl

/-- The end of a job sends nothing. -/
lemma close_ends (j : RequestJob) {w : World} {n : Nat} {r : Except Halt LoopResult × World}
    (h : Ends w n r) : Ends w n (j.close r) := by
  refine ⟨fun hung => h.comes ?_, h.spends.to_wire (j.wire_close r)⟩
  rcases r with ⟨(e | _) | r, u⟩
  · cases hung
  · rfl
  · cases hung

/-- **A request job comes to an end**, and what it sends is what its loop sends. -/
theorem run_ends (j : RequestJob) {w : World} (hw : w.Responsive) :
    Ends w (j.starts w).length (j.run w) ∧ ∀ s ∈ j.starts w, s.world.Responsive := by
  have begins : w.Spends 0 (j.begun w) := .of_wire hw (j.wire_begun w)
  cases hs : (j.begun w).isStopRequested j.token with
  | true =>
      rw [starts, if_pos hs, run_of_stopped hs]
      exact ⟨j.close_ends (.ok begins _), List.forall_mem_nil _⟩
  | false =>
      have looped := Loop.Start.ends ⟨j.toLoop, j.context, j.begun w⟩ begins.responsive
      rw [starts, if_neg (by simp [hs]), run_of_running hs]
      refine ⟨j.close_ends (looped.of_start (j.wire_begun w)), fun s hm => ?_⟩
      cases List.mem_singleton.1 hm
      exact begins.responsive

end RequestJob

/-! ## Forking jobs -/

/-- The loop that a stage is. -/
def Stage.starts (stage : Stage) (token : Token) (context : Context) (w : World) :
    List Loop.Start :=
  match stage with
  | .http request => [⟨⟨request.name, request, token⟩, context, w⟩]
  | _ => []

lemma Stage.world_of_mem_starts {stage : Stage} {token : Token} {context : Context} {w : World}
    {s : Loop.Start} (h : s ∈ stage.starts token context w) : s.world = w := by
  cases stage with
  | http request => cases List.mem_singleton.1 h; rfl
  | split s => cases h
  | process p => cases h

lemma Stage.perform_ends (stage : Stage) (token : Token) (context : Context) {w : World}
    (hw : w.Responsive) :
    Ends w (stage.starts token context w).length (stage.perform token context w) := by
  cases stage with
  | http request =>
      exact (Loop.Start.ends ⟨⟨request.name, request, token⟩, context, w⟩ hw).bind_quiet
        fun r => Quiet.pure r.pages
  | split s => exact .of_quiet (perform_quiet rfl token context) hw
  | process p => exact .of_quiet (perform_quiet rfl token context) hw

namespace ForkingJob

/-- **The loop that a forking job starts**: its first stage, if that is a request and no stop is
seen before it. -/
def starts (j : ForkingJob) (w : World) : List Loop.Start :=
  match j.stages with
  | [] => []
  | head :: _ =>
    if (j.begun w).isStopRequested j.token then []
    else head.starts j.stageToken j.context ((j.begun w).display j.token .processing)

lemma wire_started (j : ForkingJob) (w : World) : (j.started w).wire = w.wire := rfl

lemma wire_begun (j : ForkingJob) (w : World) : (j.begun w).wire = w.wire := rfl

/-- **A forking job comes to an end**, and what it sends is what its first stage sends. -/
theorem run_ends (j : ForkingJob) {w : World} (hw : w.Responsive) :
    Ends w (j.starts w).length (j.run w) ∧ ∀ s ∈ j.starts w, s.world.Responsive := by
  have ended {u : World} {n : Nat} (outcome : String) (hu : w.Spends n u) :
      Ends w n (Forks.ended j.name j.token outcome u) :=
    (Ends.of_quiet (Forks.finish_quiet _ outcome) hu.responsive).after hu
  rw [starts]
  rcases hj : j.stages with _ | ⟨head, rest⟩
  · rw [run_of_nil hj]
    exact ⟨ended _ (.of_wire hw (j.wire_started w)), List.forall_mem_nil _⟩
  · have begins : w.Spends 0 (j.begun w) := .of_wire hw (j.wire_begun w)
    dsimp only
    cases hs : (j.begun w).isStopRequested j.token with
    | true =>
        rw [run_of_stopped hj hs]
        exact ⟨ended _ begins, List.forall_mem_nil _⟩
    | false =>
        have shown : w.Spends 0 ((j.begun w).display j.token .processing) := begins.to_wire rfl
        have performed : Ends w _ _ :=
          (head.perform_ends j.stageToken j.context shown.responsive).of_start (j.wire_begun w)
        rw [run_of_performing hj hs, if_neg Bool.false_ne_true]
        refine ⟨?_, fun s hm => ?_⟩
        · -- what the stage does is known by what it costs, and is not looked into any further
          revert performed
          generalize (head.starts j.stageToken j.context _).length = n
          generalize head.perform j.stageToken j.context _ = out
          intro performed
          rcases out with ⟨(e | _) | outputs, u⟩
          · exact ⟨nofun, performed.spends.to_wire rfl⟩
          · exact absurd rfl performed.comes
          · refine Ends.after (m := n) (n := 0) ?_ performed.spends
            refine Ends.of_quiet (Quiet.bind (Quiet.checkStop _) fun late => ?_) ?_
            · split
              · exact Forks.finish_quiet _ _
              · exact Quiet.pure _
            · exact performed.spends.responsive
        · rw [Stage.world_of_mem_starts hm]
          exact shown.responsive

end ForkingJob

namespace Forks

/-- A child that is taken uses up an output. -/
lemma next_outputs (f : Forks) : Yields f.next fun x =>
    x.1 ≠ none → x.2.outputs.length + 1 = f.outputs.length := by
  have ending (outcome : String) (P : Option ForkingJob × Forks → Prop) :
      Yields (do return (none, ← f.finish outcome)) fun x => x.1 ≠ none → P x :=
    Yields.after fun _ => Yields.pure fun some => absurd rfl some
  rw [next]
  split_ifs
  · exact Yields.pure fun some => absurd rfl some
  · exact ending _ _
  · refine Yields.after fun stop => ?_
    cases stop with
    | true => exact ending _ _
    | false =>
        rcases f.outputs with _ | ⟨context, outputs⟩
        · exact ending _ _
        · exact Yields.after fun _ => Yields.pure fun _ => rfl

/-- **The children of a job come to an end**: to take more of them than there are outputs makes no
difference, since the last one to be taken is none. -/
theorem childrenFrom_eq_children {f : Forks} {n : Nat} (hn : f.outputs.length < n) :
    f.childrenFrom n = f.children := by
  -- no two numbers beyond the outputs make a difference, by induction on the first one
  have same (n m : Nat) (f : Forks) (hn : f.outputs.length < n) (hm : f.outputs.length < m) :
      f.childrenFrom n = f.childrenFrom m := by
    induction n generalizing m f with
    | zero => exact absurd hn (Nat.not_lt_zero _)
    | succ n ih =>
        obtain ⟨m, rfl⟩ := Nat.exists_eq_add_one_of_ne_zero (Nat.ne_zero_of_lt hm)
        funext w
        rw [childrenFrom, childrenFrom, bind_apply, bind_apply]
        rcases hx : f.next w with ⟨e | ⟨_ | child, g⟩, u⟩
        · rfl
        · rfl
        · have used := f.next_outputs w _ u hx (Option.some_ne_none _)
          dsimp only at used ⊢
          rw [ih m g (by omega) (by omega)]
  exact same n _ f hn (Nat.lt_succ_self _)

end Forks

/-! ## Turn after turn -/

/-- The loop that a job starts where a scheduler runs it, if it starts one. -/
def Scheduler.Visit.starts (v : Visit) : List Loop.Start := v.job.starts v.start

namespace Scheduler

variable {s : Scheduler} {st st' : SchedulerState} {w u : World}

/-- A job that comes to an end is not given up. -/
lemma outcome_ends {job : ForkingJob} {n : Nat} (h : Ends w n (job.run w)) :
    Ends w n (s.outcome job w) := by
  simp only [outcome, settle]
  rcases hr : job.run w with ⟨(e | _) | f, u⟩ <;> rw [hr] at h
  · exact .ok h.spends _
  · exact absurd rfl h.comes
  · exact .ok h.spends _

/-- **A job is run to its end**, and what it leaves is taken up. -/
lemma runJob_ends (s : Scheduler) (job : ForkingJob) (st : SchedulerState) (hw : w.Responsive) :
    Ends w (job.starts (s.relaying job w)).length (s.runJob job st w) := by
  have relayed : w.Spends 0 (s.relaying job w) := .of_wire hw rfl
  have told : s.relayTo (some job.token) w = (.ok (), s.relaying job w) := rfl
  have ran := outcome_ends (s := s) (job.run_ends relayed.responsive).1
  rw [runJob, bind_ok told]
  refine (ran.bind_quiet fun outcome => ?_).of_start (u := s.relaying job w) rfl
  refine (s.relayTo_quiet none).bind fun _ => (s.queueLate_quiet _).bind fun st => ?_
  rcases outcome with _ | e | forks
  · exact Quiet.pure _
  · exact Quiet.pure _
  · exact (collect_quiet forks _).bind fun _ => Quiet.pure _

/-- A job that has run is counted. -/
lemma JobLog.executed {job : ForkingJob} {p : Progress} {log : List Event}
    (h : s.JobLog job st (.ok (p, st')) log) :
    st'.report.executed = st.report.executed + 1 := by
  have taken {st₂ : SchedulerState} (hl : s.TakesLate st st₂) : st₂.report = st.report := by
    cases hl <;> rfl
  cases h with
  | completed hl hi outcome contexts outputs hc => rw [← taken hl]; rfl
  | failed hl hi e => rw [← taken hl]; rfl
  | overran hl hi => rw [← taken hl]; rfl

/-- **One turn comes to an end**, and what it sends is what its job sends. -/
theorem turn_ends (s : Scheduler) (st : SchedulerState) (hw : w.Responsive) :
    Ends w ((s.visit? st w).toList.flatMap Visit.starts).length (s.turn st w) ∧
      (∀ v ∈ s.visit? st w, v.start.Responsive) ∧
      ∀ p st', (s.turn st w).1 = .ok (p, st') →
        st'.report.executed = st.report.executed + (s.visit? st w).toList.length := by
  obtain ⟨u, looked, cases⟩ := s.turn_cases st w
  have wire : u.wire = w.wire := by rcases looked with rfl | rfl <;> rfl
  obtain ⟨none, halts⟩ | ⟨job, rest, -, some, ht⟩ := cases
  · obtain ⟨st', ht, executed⟩ : ∃ st', s.turn st w = (.ok (.halt, st'), u) ∧
        st'.report.executed = st.report.executed := by
      rcases halts with cancelled | ⟨-, idle⟩
      · exact ⟨_, cancelled, rfl⟩
      · exact ⟨_, idle, rfl⟩
    rw [none, ht]
    refine ⟨.ok (.of_wire hw wire) _, nofun, ?_⟩
    rintro p _ ⟨⟩
    exact executed
  · have responsive := hw.of_wire wire
    have ran := s.runJob_ends job { st with queued := rest } responsive
    rw [some, ht, Option.toList_some, List.flatMap_singleton]
    refine ⟨ran.of_start wire, ?_, fun p st' hp => ?_⟩
    · rintro v ⟨⟩
      exact responsive.of_wire rfl
    · obtain ⟨t, -, log⟩ := s.runJob_leaves job { st with queued := rest } u
      rw [hp] at log
      exact log.executed

end Scheduler

/-- **The jobs that a scheduler runs**, as its queue is worked off turn after turn. -/
inductive Tour (s : Scheduler) : SchedulerState → World → List Scheduler.Visit →
    Except Halt SchedulerReport × World → Prop where
  | halts {st st' : SchedulerState} {w u : World} (h : s.turn st w = (.ok (.halt, st'), u)) :
      Tour s st w (s.visit? st w).toList (.ok st'.report, u)
  | breaks {st : SchedulerState} {w u : World} {e : Halt} (h : s.turn st w = (.error e, u)) :
      Tour s st w (s.visit? st w).toList (.error e, u)
  | turns {st st' : SchedulerState} {w u : World} {visits : List Scheduler.Visit}
      {out : Except Halt SchedulerReport × World} (h : s.turn st w = (.ok (.goOn, st'), u))
      (ht : Tour s st' u visits out) : Tour s st w ((s.visit? st w).toList ++ visits) out

/-- **A queue that is worked off makes a tour.** -/
theorem WorksOff.tour {s : Scheduler} {st : SchedulerState} {w : World}
    {out : Except Halt SchedulerReport × World} (h : WorksOff s st w out) :
    ∃ visits, Tour s st w visits out := by
  induction h with
  | halts h => exact ⟨_, .halts h⟩
  | breaks h => exact ⟨_, .breaks h⟩
  | turns h _ ih =>
      obtain ⟨visits, tour⟩ := ih
      exact ⟨_, .turns h tour⟩

/-- **A tour comes to an end**, and what it sends is what its jobs send, which are all counted. -/
theorem Tour.ends {s : Scheduler} {st : SchedulerState} {w : World}
    {visits : List Scheduler.Visit} {out : Except Halt SchedulerReport × World}
    (h : Tour s st w visits out) (hw : w.Responsive) :
    Ends w (visits.flatMap Scheduler.Visit.starts).length out ∧
      (∀ v ∈ visits, v.start.Responsive) ∧
      ∀ report, out.1 = .ok report → report.executed = st.report.executed + visits.length := by
  induction h with
  | @halts st st' w u h =>
      obtain ⟨ends, responsive, executed⟩ := s.turn_ends st hw
      rw [h] at ends executed
      refine ⟨.ok ends.spends _, fun v hv => responsive v (Option.mem_toList.1 hv), ?_⟩
      rintro report ⟨⟩
      exact executed _ _ rfl
  | @breaks st w u e h =>
      obtain ⟨ends, responsive, -⟩ := s.turn_ends st hw
      rw [h] at ends
      exact ⟨ends.error, fun v hv => responsive v (Option.mem_toList.1 hv), nofun⟩
  | @turns st st' w u visits out h ht ih =>
      obtain ⟨ends, responsive, executed⟩ := s.turn_ends st hw
      rw [h] at ends executed
      obtain ⟨later, responsive', executed'⟩ := ih ends.spends.responsive
      refine ⟨?_, fun v hv => ?_, fun report hr => ?_⟩
      · rw [List.flatMap_append, List.length_append]
        exact later.after ends.spends
      · rcases List.mem_append.1 hv with hv | hv
        · exact responsive v (Option.mem_toList.1 hv)
        · exact responsive' v hv
      · rw [executed' report hr, executed _ _ rfl, List.length_append, Nat.add_assoc]

/-! ## The whole run -/

namespace Engine

/-- The loop that a leg starts, if it starts one. -/
def Leg.starts (leg : Leg) : List Loop.Start := leg.job.starts leg.start

/-- **All request jobs come to an end**, and what they send is what their loops send. -/
theorem Course.spends {stop run : Token} {index : Nat} {requests : List Request} {context : Context}
    {w u : World} {legs : List Leg} {out : Except Halt (Except EngineError RequestRun)}
    (h : Course stop run index requests context w legs out u) (hw : w.Responsive) :
    Ends w (legs.flatMap Leg.starts).length (out, u) ∧ ∀ leg ∈ legs, leg.start.Responsive := by
  have looked (w : World) : w.look.wire = w.wire := rfl
  -- a leg that starts behind a look comes to an end
  have first {w : World} {leg : Leg} (hw : w.Responsive) (hl : leg.start = w.look) :
      leg.result ≠ .error .hung ∧ w.Spends leg.starts.length leg.finish ∧ leg.start.Responsive := by
    have responsive : leg.start.Responsive := hl ▸ hw.of_wire (looked w)
    have ran := (leg.job.run_ends responsive).1.of_start (w := w) (hl ▸ looked w)
    exact ⟨ran.comes, ran.spends, responsive⟩
  induction h with
  | done => exact ⟨.ok (.of_wire hw rfl) _, List.forall_mem_nil _⟩
  | @cut index request rest context w h =>
      exact ⟨.ok (.of_wire hw (looked w)) _, List.forall_mem_nil _⟩
  | hung h hl hr => exact absurd hr (first hw (by rw [hl])).1
  | @failed index request rest context w leg e h hl hr =>
      obtain ⟨-, spends, responsive⟩ := first hw (congrArg Leg.start hl)
      rw [List.flatMap_singleton]
      exact ⟨.ok spends _, List.forall_mem_singleton.2 responsive⟩
  | @next index request rest context w u leg legs report out h hl hr hc ih =>
      obtain ⟨-, spends, responsive⟩ := first hw (congrArg Leg.start hl)
      obtain ⟨later, others⟩ := ih spends.responsive
      rw [List.flatMap_cons, List.length_append]
      refine ⟨⟨fun hung => ?_, spends.trans later.spends⟩,
        List.forall_mem_cons.2 ⟨responsive, others⟩⟩
      rcases out with e | r
      · exact later.comes hung
      · cases hung

/-- **The whole of a run**: the legs of its request jobs, and the tour of its scheduler if nothing
keeps the jobs from being run. -/
inductive Goes (e : Engine) (stop run : Token) (w : World) : List Leg → List Scheduler.Visit →
    Except Halt (Except EngineError EngineReport) × World → Prop where
  | hung {legs : List Leg} {u : World}
      (hc : Course stop run 1 e.requests e.context w legs (.error .hung) u) :
      Goes e stop run w legs [] (.error .hung, u)
  | failed {legs : List Leg} {u : World} {error : EngineError}
      (hc : Course stop run 1 e.requests e.context w legs (.ok (.error error)) u) :
      Goes e stop run w legs [] (.ok (.error error), u)
  | requests {legs : List Leg} {u : World} {r : RequestRun}
      (hc : Course stop run 1 e.requests e.context w legs (.ok (.ok r)) u)
      (h : r.cut = true ∨ e.jobs = [] ∨ u.look.isStopRequested stop = true) :
      Goes e stop run w legs [] (e.afterRequests stop run r u)
  | jobs {legs : List Leg} {visits : List Scheduler.Visit} {u v : World} {r : RequestRun}
      {jobs : SchedulerReport}
      (hc : Course stop run 1 e.requests e.context w legs (.ok (.ok r)) u)
      (hcut : r.cut = false) (hj : e.jobs ≠ []) (hs : u.look.isStopRequested stop = false)
      (ht : Tour ⟨run.child 0, some stop, none⟩
        ⟨{}, forkingJobs run r.context (e.requests.length + 1) e.jobs, false⟩ u.look visits
        (.ok jobs, v)) :
      Goes e stop run w legs visits (.ok (.ok ⟨r.reports, some jobs, r.context,
        v.look.isStopRequested stop || jobs.cancelled⟩), v.look)
  | jobsHung {legs : List Leg} {visits : List Scheduler.Visit} {u v : World} {r : RequestRun}
      (hc : Course stop run 1 e.requests e.context w legs (.ok (.ok r)) u)
      (hcut : r.cut = false) (hj : e.jobs ≠ []) (hs : u.look.isStopRequested stop = false)
      (ht : Tour ⟨run.child 0, some stop, none⟩
        ⟨{}, forkingJobs run r.context (e.requests.length + 1) e.jobs, false⟩ u.look visits
        (.error .hung, v)) :
      Goes e stop run w legs visits (.error .hung, v)

/-- **Every run goes so**, in every world. -/
theorem run_goes (e : Engine) (stop run : Token) (w : World) :
    ∃ legs visits, e.Goes stop run w legs visits (e.run stop run w) := by
  obtain ⟨legs, course⟩ := runRequests_course stop run 1 e.requests e.context w
  rcases hr : runRequests stop run 1 e.requests e.context w with ⟨h | error | r, u⟩ <;>
    rw [hr] at course
  · obtain rfl : h = .hung := course.of_error
    rw [run_of_halt hr]
    exact ⟨legs, [], .hung course⟩
  · rw [run_of_error hr]
    exact ⟨legs, [], .failed course⟩
  · rw [run_of_ok hr]
    by_cases hn : r.cut = true ∨ e.jobs = [] ∨ u.look.isStopRequested stop = true
    · exact ⟨legs, [], .requests course hn⟩
    · simp only [not_or, Bool.not_eq_true] at hn
      obtain ⟨hc, hj, hs⟩ := hn
      have turns : WorksOff _ _ u.look (e.runJobs stop run r.context u.look) :=
        (Scheduler.run_worksOff _ _ u.look _).2 rfl
      obtain ⟨visits, tour⟩ := turns.tour
      rw [afterRequests_of_some hc hj hs]
      rcases hx : e.runJobs stop run r.context u.look with ⟨h | jobs, v⟩ <;> rw [hx] at tour turns
      · obtain rfl : h = .hung := turns.of_error
        exact ⟨legs, visits, .jobsHung course hc hj hs tour⟩
      · exact ⟨legs, visits, .jobs course hc hj hs tour⟩

/-- The loops that are started in a run. -/
def starts (legs : List Leg) (visits : List Scheduler.Visit) : List Loop.Start :=
  legs.flatMap Leg.starts ++ visits.flatMap Scheduler.Visit.starts

/-- The loops are started where every request is answered. -/
lemma starts_responsive {legs : List Leg} {visits : List Scheduler.Visit}
    (hl : ∀ leg ∈ legs, leg.start.Responsive) (hv : ∀ v ∈ visits, v.start.Responsive) :
    ∀ s ∈ starts legs visits, s.world.Responsive := by
  intro s hs
  rcases List.mem_append.1 hs with hs | hs
  · obtain ⟨leg, hm, hs⟩ := List.mem_flatMap.1 hs
    exact (leg.job.run_ends (hl leg hm)).2 s hs
  · obtain ⟨v, hm, hs⟩ := List.mem_flatMap.1 hs
    exact (v.job.run_ends (hv v hm)).2 s hs

/-- **A whole run comes to a result**, and what it sends is what its loops send. -/
theorem Goes.ends {e : Engine} {stop run : Token} {w : World} {legs : List Leg}
    {visits : List Scheduler.Visit} {out : Except Halt (Except EngineError EngineReport) × World}
    (h : e.Goes stop run w legs visits out) (hw : w.Responsive) :
    (∃ result, out.1 = .ok result ∧ ∀ report jobs, result = .ok report →
        report.jobs = some jobs → jobs.executed = visits.length) ∧
      w.Spends (starts legs visits).length out.2 ∧
      (∀ s ∈ starts legs visits, s.world.Responsive) := by
  have nobody : ∀ v ∈ ([] : List Scheduler.Visit), v.start.Responsive := List.forall_mem_nil _
  have alone {legs : List Leg} {u : World} (h : w.Spends (legs.flatMap Leg.starts).length u) :
      w.Spends (starts legs []).length u := by simpa [starts] using h
  cases h with
  | hung hc => exact absurd rfl (hc.spends hw).1.comes
  | @failed u error hc =>
      obtain ⟨ends, first⟩ := hc.spends hw
      exact ⟨⟨.error error, rfl, nofun⟩, alone ends.spends, starts_responsive first nobody⟩
  | @requests u r hc h =>
      obtain ⟨ends, first⟩ := hc.spends hw
      obtain ⟨v, stopped, hv, after⟩ := afterRequests_of_none run h
      have wire : v.wire = u.wire := by rcases hv with rfl | rfl <;> rfl
      rw [after]
      refine ⟨⟨_, rfl, ?_⟩, alone (ends.spends.to_wire wire), starts_responsive first nobody⟩
      rintro report jobs ⟨⟩ ⟨⟩
  | jobs hc hcut hj hs ht =>
      obtain ⟨ends, first⟩ := hc.spends hw
      have looked : w.Spends _ (World.look _) := ends.spends.to_wire rfl
      obtain ⟨toured, later, executed⟩ := ht.ends looked.responsive
      refine ⟨⟨_, rfl, ?_⟩, ?_, starts_responsive first later⟩
      · rintro report _ ⟨⟩ ⟨⟩
        exact (executed _ rfl).trans (Nat.zero_add _)
      · rw [starts, List.length_append]
        exact (toured.after looked).spends.to_wire rfl
  | jobsHung hc hcut hj hs ht =>
      obtain ⟨ends, -⟩ := hc.spends hw
      have looked : w.Spends _ (World.look _) := ends.spends.to_wire rfl
      exact absurd rfl (ht.ends looked.responsive).1.comes

/-- **A run that comes to an end**: its request jobs, the jobs that it has executed, and the loops
that these have started. -/
structure Completes (e : Engine) (stop run : Token) (w : World) (legs : List Leg)
    (visits : List Scheduler.Visit) (result : Except EngineError EngineReport) (u : World) :
    Prop where
  goes : e.Goes stop run w legs visits (.ok result, u)
  /-- Every loop comes to an end after finitely many rounds. -/
  loops : ∀ s ∈ starts legs visits, s.ComesToEnd
  /-- The children of every job come to an end: none is left when its outputs are used up. -/
  children : ∀ v ∈ visits, ∀ f u, v.job.run v.start = (.ok f, u) →
    ∀ n, f.outputs.length < n → f.childrenFrom n = f.children
  executed : ∀ report jobs, result = .ok report → report.jobs = some jobs →
    jobs.executed = visits.length
  /-- There is at most one request for every answer, and one more for every loop. -/
  sent : u.sent.length ≤ w.sent.length + w.answers.length + (starts legs visits).length

/-- **Where every request is answered, every run comes to an end**, whatever is asked to stop and
when, and all its loops together send at most one request each beyond the answers of the script. -/
theorem run_completes (e : Engine) (stop run : Token) {w : World} (hw : w.Responsive) :
    ∃ legs visits result u, e.run stop run w = (.ok result, u) ∧
      e.Completes stop run w legs visits result u := by
  obtain ⟨legs, visits, goes⟩ := e.run_goes stop run w
  obtain ⟨⟨result, hr, executed⟩, spends, responsive⟩ := goes.ends hw
  have comes : e.run stop run w = (.ok result, (e.run stop run w).2) := Prod.ext hr rfl
  refine ⟨legs, visits, result, _, comes, comes ▸ goes, fun s hs => ?_, fun v hv f u hf n hn => ?_,
    executed, ?_⟩
  · exact s.comesToEnd (responsive s hs)
  · exact Forks.childrenFrom_eq_children hn
  · have bound := spends.traffic
    rw [World.traffic, World.traffic] at bound
    omega

/-! Two answers and two loops: the request for items sends three requests and the job one more, so
that there are as many as there can be. -/

/-- An engine with a request for items, and with a job that fetches them again. -/
def itemsEngine : Engine := ⟨[itemsRequest], [⟨"items", [.http itemsRequest]⟩], .info, none, []⟩

theorem run_completes_items :
    itemsWorld.Responsive ∧ (itemsEngine.run [0] [1] itemsWorld).2.sent.length = 4 ∧
      ∃ legs visits result u, itemsEngine.run [0] [1] itemsWorld = (.ok result, u) ∧
        itemsEngine.Completes [0] [1] itemsWorld legs visits result u := by
  have responsive : itemsWorld.Responsive := ⟨rfl, by simp [itemsWorld]⟩
  exact ⟨responsive, by decide +kernel, run_completes itemsEngine [0] [1] responsive⟩

end Engine

end Connector
