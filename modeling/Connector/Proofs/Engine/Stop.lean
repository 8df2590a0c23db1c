import Connector.Proofs.Engine.Beside

/-!
# What a stop does to an engine run

A stop of an engine cuts its run at the end of a job and changes nothing before that.  The run of
the requests and that of the jobs are each compared with the run that is not stopped; where the stop
is seen, all that was sent, told and reported so far begins what the other run sends, tells and
reports.

* `Engine.runRequests_beside`, `Engine.runJobs_beside` — the requests and the jobs in both runs.
* **`Engine.run_beside`** — both runs of an engine.
* `Engine.run_ends` — a run ends where a job ends, and no request is cancelled.
* **`Engine.stop_truncates`** — a stop before the run, or while any request is under way.
-/

namespace Connector

open Work

/-- **One report of an engine begins another one**: with its requests, and with what its jobs
list. -/
structure EngineReport.Begins (r r' : EngineReport) : Prop where
  requests : r.requests <+: r'.requests
  jobs : ∀ jobs, r.jobs = some jobs → ∃ jobs', r'.jobs = some jobs' ∧ jobs.Begins jobs'

lemma EngineReport.Begins.refl (r : EngineReport) : r.Begins r :=
  ⟨List.prefix_refl _, fun jobs h => ⟨jobs, h, .refl jobs⟩⟩

/-- A run of an engine that was cut short reports, and what it reports begins what the other one
reports, if it does. -/
def EngineReport.Cuts (a : Except EngineError EngineReport)
    (out : Except Halt (Except EngineError EngineReport)) : Prop :=
  ∃ r, a = .ok r ∧ ∀ r', out = .ok (.ok r') → r.Begins r'

namespace Engine

variable {stop run : Token} {u v w : World}

/-! ## The requests in both runs -/

/-- The same of a run of requests, which tells that it was cut. -/
def RequestRun.Cuts (a : Except EngineError RequestRun)
    (out : Except Halt (Except EngineError RequestRun)) : Prop :=
  ∃ r, a = .ok r ∧ r.cut = true ∧ ∀ r', out = .ok (.ok r') → r.reports <+: r'.reports

lemma RequestRun.Cuts.behind {a : Except EngineError RequestRun}
    {out : Except Halt (Except EngineError RequestRun)} (h : RequestRun.Cuts a out)
    (report : JobReport) :
    RequestRun.Cuts (a.map (·.behind report)) (out.map (Except.map (·.behind report))) := by
  obtain ⟨r, rfl, cut, reports⟩ := h
  refine ⟨_, rfl, cut, fun r' h => ?_⟩
  rcases out with halt | error | later <;> cases h
  exact (List.prefix_cons_inj _).2 (reports later rfl)

/-- **The requests in both runs**, by induction on the requests. -/
theorem runRequests_beside (ha : Token.Apart stop run) (index : Nat) (requests : List Request)
    (context : Context) (h : Beside stop run u v) :
    CutShort stop run RequestRun.Cuts (runRequests stop run index requests context u)
      (runRequests stop run index requests context v) := by
  induction requests generalizing index context u v with
  | nil => exact .same h
  | cons request rest ih =>
      have goes : u.look.isStopRequested stop = false := h.unstopped.look.notStopped _
      rcases seen : v.look.isStopRequested stop with _ | _
      · obtain ⟨r, u', v', hu, hv, beside⟩ :=
          (Beside.requestJob_run ha request context index).exists_apply h.look
        rcases r with (e | _) | report
        · rw [runRequests_of_failed goes hu, runRequests_of_failed seen hv]
          exact .same beside
        · rw [runRequests_of_hung goes hu, runRequests_of_hung seen hv]
          exact .same beside
        · rw [runRequests_of_ok goes hu, runRequests_of_ok seen hv]
          exact (ih (index + 1) report.context beside).map fun a r hq => hq.behind report
      · obtain ⟨legs, course⟩ := runRequests_course stop run index (request :: rest) context u
        obtain ⟨t, ht⟩ := course.trail
        rw [runRequests_of_stopped seen]
        refine .of_cut ⟨_, rfl, rfl, fun r' _ => List.nil_prefix⟩ ⟨t, ?_⟩ h.asks.look
        rw [ht, h.trail]
        rfl

/-! ## The jobs in both runs -/

lemma runJobs_beside (ha : Token.Apart stop run) (e : Engine) (context : Context)
    (h : Beside stop run u v) :
    CutShort stop run SchedulerReport.Cuts (e.runJobs stop run context u)
      (e.runJobs stop run context v) := by
  have serves : Scheduler.Serves stop run ⟨run.child 0, some stop, none⟩ :=
    ⟨List.prefix_append _ _, rfl, rfl⟩
  refine WorksOff.beside ha serves ((Scheduler.run_worksOff _ _ v _).2 rfl)
    ((Scheduler.run_worksOff _ _ u _).2 rfl) (fun j hj => ?_) h
  obtain ⟨job, -, i, rfl⟩ := of_mem_forkingJobs hj
  exact List.prefix_append _ _

/-- The jobs of an engine are whole, if none of them waits for ever. -/
lemma runJobs_ends (ha : Token.Apart stop run) (e : Engine) (context : Context)
    (hw : w.Asks stop run) :
    (e.runJobs stop run context w).1 ≠ .error .hung →
      ∃ log, (e.runJobs stop run context w).2.events = w.events ++ log ∧ WholeJobs log := by
  intro ends
  obtain ⟨⟨t, ht, whole⟩, -⟩ := ((Scheduler.run_worksOff _ _ w _).2 rfl :
    WorksOff _ _ w (e.runJobs stop run context w)).grows
  have asks := (runJobs_beside ha e context hw.beside).asks
  exact ⟨t.events, congrArg Trail.events ht,
    whole ends (asks.notStopped ha (List.prefix_append _ _))⟩

/-! ## The engine in both runs -/

/-- Where the stopped run does not run the jobs, whatever the other one does. -/
lemma cutShort_of_none {e : Engine} {r : RequestRun}
    {full : Except Halt (Except EngineError EngineReport) × World}
    (hn : r.cut = true ∨ e.jobs = [] ∨ v.look.isStopRequested stop = true)
    (hr : ∀ r', full.1 = .ok (.ok r') → r.reports <+: r'.requests)
    (ht : ∃ t, full.2.trail = v.trail ++ t) (hv : v.Asks stop run) :
    CutShort stop run EngineReport.Cuts full (e.afterRequests stop run r v) := by
  obtain ⟨v', stopped, hv', ends⟩ := afterRequests_of_none run hn
  have reports : EngineReport.Cuts (.ok ⟨r.reports, none, r.context, stopped⟩) full.1 :=
    ⟨_, rfl, fun r' h => ⟨hr r' h, nofun⟩⟩
  rw [ends]
  rcases hv' with rfl | rfl
  · exact .of_cut reports ht hv
  · exact .of_cut reports ht hv.look

/-- **What an engine does after its requests, in both runs.** -/
lemma afterRequests_beside (ha : Token.Apart stop run) (e : Engine) (r : RequestRun)
    (h : Beside stop run u v) :
    CutShort stop run EngineReport.Cuts (e.afterRequests stop run r u)
      (e.afterRequests stop run r v) := by
  by_cases hn : r.cut = true ∨ e.jobs = [] ∨ v.look.isStopRequested stop = true
  · obtain ⟨reports, t, ht, -⟩ := e.afterRequests_reports stop run r u
    refine cutShort_of_none hn (fun r' hr => ?_) ⟨t, by rw [ht, h.trail]⟩ h.asks
    exact (reports r' hr).symm ▸ List.prefix_refl r.reports
  · simp only [not_or, Bool.not_eq_true] at hn
    obtain ⟨hc, hj, hs⟩ := hn
    have jobs := runJobs_beside ha e r.context h.look
    rw [afterRequests_of_some hc hj hs,
      afterRequests_of_some hc hj (h.unstopped.look.notStopped _)]
    generalize e.runJobs stop run r.context u.look = full at jobs
    generalize e.runJobs stop run r.context v.look = cut at jobs
    cases jobs with
    | @same x u' v' beside =>
        rcases x with halt | jobs
        · exact .same beside
        · refine .cut ⟨_, rfl, fun r' hr => ?_⟩ ⟨.empty, ?_⟩ beside.asks.look
          · cases hr
            exact ⟨List.prefix_refl _, fun jobs h => ⟨jobs, h, .refl jobs⟩⟩
          · rw [Trail.append_empty]
            exact beside.trail
    | @cut jobs x u' v' hq ht hv =>
        obtain ⟨t, ht⟩ := ht
        rcases x with halt | jobs'
        · exact .cut ⟨_, rfl, nofun⟩ ⟨t, ht⟩ hv.look
        · refine .cut ⟨_, rfl, fun r' hr => ?_⟩ ⟨t, ht⟩ hv.look
          cases hr
          refine ⟨List.prefix_refl _, ?_⟩
          rintro _ ⟨⟩
          exact ⟨jobs', rfl, hq jobs' rfl⟩

/-- **Both runs of an engine.** -/
theorem run_beside (ha : Token.Apart stop run) (e : Engine) (h : Beside stop run u v) :
    CutShort stop run EngineReport.Cuts (e.run stop run u) (e.run stop run v) := by
  have requests := runRequests_beside ha 1 e.requests e.context h
  rcases hu : runRequests stop run 1 e.requests e.context u with ⟨x, u'⟩
  rcases hv : runRequests stop run 1 e.requests e.context v with ⟨y, v'⟩
  rw [hu, hv] at requests
  cases requests with
  | same beside =>
      rcases x with halt | error | r
      · rw [run_of_halt hu, run_of_halt hv]
        exact .same beside
      · rw [run_of_error hu, run_of_error hv]
        exact .same beside
      · rw [run_of_ok hu, run_of_ok hv]
        exact afterRequests_beside ha e r beside
  | cut hq ht asks =>
      obtain ⟨r, rfl, cut, reports⟩ := hq
      obtain ⟨t, ht⟩ := ht
      obtain ⟨⟨t', ht'⟩, later⟩ := run_reports hu
      rw [run_of_ok hv]
      refine cutShort_of_none (.inl cut) (fun r' hr => ?_)
        ⟨t ++ t', by rw [ht', ht, Trail.append_assoc]⟩ asks
      obtain ⟨r₁, rfl, same⟩ := later r' hr
      rw [same]
      exact reports r₁ rfl

/-! ## Where a run ends -/

/-- The legs of a run see no stop. -/
lemma Course.ends {index : Nat} {requests : List Request} {context : Context} {legs : List Leg}
    {out : Except Halt (Except EngineError RequestRun)} (ha : Token.Apart stop run)
    (h : Course stop run index requests context w legs out u) (hw : w.Asks stop run) :
    u.Asks stop run ∧
      ∀ leg ∈ legs, ∀ report, leg.result = .ok report → report.outcome ≠ .cancelled := by
  have ran {index : Nat} {request : Request} {context : Context} {w : World} {leg : Leg}
      (hw : w.Asks stop run) (hl : leg = ⟨⟨request, context, run.child index⟩, w.look⟩) :
      leg.finish.Asks stop run ∧
        ∀ report, leg.result = .ok report → report.outcome ≠ .cancelled := by
    subst hl
    obtain ⟨r, _, v, -, hv, beside⟩ :=
      (Beside.requestJob_run ha request context index).exists_apply hw.look.beside
    have finish : (⟨⟨request, context, run.child index⟩, w.look⟩ : Leg).finish = v :=
      congrArg Prod.snd hv
    rw [finish]
    refine ⟨beside.asks, fun report hr cancelled => ?_⟩
    have stopped := RequestJob.run_cancelled (Prod.ext hr finish) cancelled
    have running := beside.asks.notStopped ha (List.prefix_append run [index])
    exact Bool.false_ne_true (running.symm.trans stopped)
  induction h with
  | done => exact ⟨hw, fun _ hm => (List.not_mem_nil hm).elim⟩
  | cut h => exact ⟨hw.look, fun _ hm => (List.not_mem_nil hm).elim⟩
  | hung h hl hr =>
      refine ⟨(ran hw hl).1, fun leg hm => ?_⟩
      cases List.mem_singleton.1 hm
      exact (ran hw hl).2
  | failed h hl hr =>
      refine ⟨(ran hw hl).1, fun leg hm => ?_⟩
      cases List.mem_singleton.1 hm
      exact (ran hw hl).2
  | next h hl hr hc ih =>
      obtain ⟨finish, here⟩ := ran hw hl
      obtain ⟨asks, later⟩ := ih finish
      refine ⟨asks, fun leg hm => ?_⟩
      rcases List.mem_cons.1 hm with rfl | hm
      · exact here
      · exact later leg hm

/-- What an engine does after its requests are whole jobs. -/
lemma afterRequests_ends (ha : Token.Apart stop run) (e : Engine) (r : RequestRun)
    (hw : w.Asks stop run) (hh : (e.afterRequests stop run r w).1 ≠ .error .hung) :
    ∃ log, (e.afterRequests stop run r w).2.events = w.events ++ log ∧ WholeJobs log := by
  by_cases hn : r.cut = true ∨ e.jobs = [] ∨ w.look.isStopRequested stop = true
  · obtain ⟨u, stopped, hu, ends⟩ := afterRequests_of_none run hn
    rw [ends]
    refine ⟨[], ?_, .nil⟩
    rw [List.append_nil]
    rcases hu with rfl | rfl <;> rfl
  · simp only [not_or, Bool.not_eq_true] at hn
    obtain ⟨hc, hj, hs⟩ := hn
    have whole := runJobs_ends ha e r.context hw.look
    rw [afterRequests_of_some hc hj hs] at hh ⊢
    rcases hr : e.runJobs stop run r.context w.look with ⟨halt | jobs, u⟩ <;>
      rw [hr] at whole hh
    · exact whole fun h => hh (by cases h; rfl)
    · exact whole nofun

/-- **Where a run ends**: at the end of a job, unless it waits for ever; and none of its requests
is cancelled. -/
theorem run_ends (ha : Token.Apart stop run) (e : Engine) (hw : w.Asks stop run) :
    ((e.run stop run w).1 ≠ .error .hung →
      ∃ log, (e.run stop run w).2.events = w.events ++ log ∧ WholeJobs log) ∧
      ∀ report, (e.run stop run w).1 = .ok (.ok report) →
        ∀ r ∈ report.requests, r.outcome ≠ .cancelled := by
  obtain ⟨legs, course⟩ := runRequests_course stop run 1 e.requests e.context w
  rcases hr : runRequests stop run 1 e.requests e.context w with ⟨halt | error | r, u⟩ <;>
    rw [hr] at course
  · rw [run_of_halt hr]
    exact ⟨fun ends => absurd (congrArg _ course.of_error) ends, nofun⟩
  · rw [run_of_error hr]
    exact ⟨fun _ => ⟨_, course.events, course.whole nofun⟩, nofun⟩
  · rw [run_of_ok hr]
    obtain ⟨asks, uncancelled⟩ := course.ends ha hw
    refine ⟨fun ends => ?_, fun report h job hj => ?_⟩
    · obtain ⟨log, told, whole⟩ := afterRequests_ends ha e r asks ends
      refine ⟨_, ?_, (course.whole nofun).append whole⟩
      rw [told, course.events, List.append_assoc]
    · obtain ⟨same, -⟩ := e.afterRequests_reports stop run r u
      have mem : (.ok job : Except Halt JobReport) ∈ legs.map Leg.result := by
        rw [(course.reports rfl).1, ← same report h]
        exact List.mem_map_of_mem hj
      obtain ⟨leg, hl, result⟩ := List.mem_map.1 mem
      exact uncancelled leg hl job result

/-! ## A stop -/

/-- **A forking job of an engine starts in a world**, after all requests. -/
def StartsJob (e : Engine) (stop run : Token) (w u : World) : Prop :=
  ∃ r v, runRequests stop run 1 e.requests e.context w = (.ok (.ok r), v) ∧
    Scheduler.Starts ⟨run.child 0, some stop, none⟩
      ⟨{}, forkingJobs run r.context (e.requests.length + 1) e.jobs, false⟩ v.look u

/-- **What a stop makes of the run of an engine**: `w` is the world of the run that is not stopped,
and `v` that of the one that is. -/
structure Truncates (e : Engine) (stop run : Token) (w v : World) : Prop where
  sent : (e.run stop run v).2.sent <+: (e.run stop run w).2.sent
  events : (e.run stop run v).2.events <+: (e.run stop run w).2.events
  /-- What the stopped run reports begins what the other one reports. -/
  reports : ∀ r r', (e.run stop run v).1 = .ok (.ok r) → (e.run stop run w).1 = .ok (.ok r') →
    r.Begins r'
  /-- A request that fails, before the stop or when it comes, fails both runs. -/
  failed : ∀ error, (e.run stop run v).1 = .ok (.error error) →
    (e.run stop run w).1 = .ok (.error error)
  /-- A job that waits for ever keeps both runs waiting. -/
  hung : (e.run stop run v).1 = .error .hung → (e.run stop run w).1 = .error .hung ∧
    (e.run stop run w).2.quiet = (e.run stop run v).2.quiet
  /-- A stopped run that does not wait for ever ends where a job ends. -/
  whole : (e.run stop run v).1 ≠ .error .hung →
    ∃ log, (e.run stop run v).2.events = v.events ++ log ∧ WholeJobs log
  uncancelled : ∀ report, (e.run stop run v).1 = .ok (.ok report) →
    ∀ r ∈ report.requests, r.outcome ≠ .cancelled
  /-- No forking job starts once the stop has been asked for. -/
  running : ∀ u, e.StartsJob stop run v u → u.isStopRequested stop = false
  /-- The requests of both runs start in turn, each where the one before has left off, none once the
  stop has been asked for, and nothing starts after one that fails. -/
  inTurn : ∃ legs, e.InTurn stop w legs (e.run stop run w)
  inTurn_stopped : ∃ legs, e.InTurn stop v legs (e.run stop run v)

/-- What a run that is cut short comes to, by how it ends. -/
lemma results_of_cutShort {full cut : Except Halt (Except EngineError EngineReport) × World}
    (h : CutShort stop run EngineReport.Cuts full cut) :
    (∀ r r', cut.1 = .ok (.ok r) → full.1 = .ok (.ok r') → r.Begins r') ∧
      (∀ error, cut.1 = .ok (.error error) → full.1 = .ok (.error error)) ∧
        (cut.1 = .error .hung → full.1 = .error .hung ∧ full.2.quiet = cut.2.quiet) := by
  cases h with
  | same beside =>
      refine ⟨fun r r' hv hw => ?_, fun error hv => hv, fun hv => ⟨hv, beside.quiet⟩⟩
      cases hv.symm.trans hw
      exact .refl r
  | cut hq ht hv =>
      obtain ⟨r₀, rfl, begins⟩ := hq
      refine ⟨fun r r' h h' => ?_, nofun, nofun⟩
      cases h
      exact begins r' h'

/-- Two worlds that differ in the stops that are asked for, now or at any later moment. -/
theorem truncates_of_beside (ha : Token.Apart stop run) (e : Engine) (h : Beside stop run w v) :
    e.Truncates stop run w v := by
  have both := run_beside ha e h
  obtain ⟨t, ht⟩ := both.trail
  obtain ⟨reports, failed, hung⟩ := results_of_cutShort both
  obtain ⟨whole, uncancelled⟩ := run_ends ha e h.asks
  exact {
    sent := ⟨t.sent, (congrArg Trail.sent ht).symm⟩
    events := ⟨t.events, (congrArg Trail.events ht).symm⟩
    reports := reports
    failed := failed
    hung := hung
    whole := whole
    uncancelled := uncancelled
    running := fun _ ⟨_, _, _, starts⟩ => starts.running rfl
    inTurn := run_inTurn e stop run w
    inTurn_stopped := run_inTurn e stop run v }

/-- **A stop truncates the run of an engine.**  Of any requests and jobs, from any context, with any
functions, stores and answers, and with the stop before the run or while any request is under
way. -/
theorem stop_truncates (e : Engine) (stop run : Token) (n : Nat) (w : World)
    (ha : Token.Apart stop run) (hw : w.Unstopped) (hr : w.relay = none) :
    e.Truncates stop run w (w.stopAfter stop n) :=
  truncates_of_beside ha e (hw.beside hr run n)

theorem stop_truncates_items :
    Token.Apart [0] [1] ∧ itemsWorld.Unstopped ∧ itemsWorld.relay = none ∧
      Truncates ⟨[itemsRequest], [⟨"items", [.http itemsRequest]⟩], .info, none, []⟩ [0] [1]
        itemsWorld (itemsWorld.stopAfter [0] 1) :=
  ⟨⟨by decide, by decide⟩, ⟨rfl, rfl, rfl⟩, rfl,
    stop_truncates _ [0] [1] 1 itemsWorld ⟨by decide, by decide⟩ ⟨rfl, rfl, rfl⟩ rfl⟩

end Engine

end Connector
