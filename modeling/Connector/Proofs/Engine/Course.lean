import Connector.Proofs.Loop.Progress
import Connector.Proofs.Scheduler.Growth
import Mathlib.Data.List.Chain

/-!
# The course of an engine run

An engine runs its requests one after the other and then its jobs.  Every request job that starts
is a leg of the run: it starts in the world and in the context that the leg before has left, and a
leg that fails is the last thing that happens.

* `RequestJob.run_whole` — a request job tells of itself from its start to its end.
* `Engine.Leg` — a request job and the world that it starts in.
* `Engine.Course` — the legs of a run, with one constructor for each way to go on or to end.
* `Engine.runRequests_course` — every run has a course.
* **`Engine.run_inTurn`** — what the legs of an engine run are to each other and to its result.
-/

namespace Connector

open Work

namespace RequestJob

/-- A request job that comes to an end is whole. -/
lemma run_whole (j : RequestJob) :
    j.run.Leaves fun r t => r ≠ .error .hung → WholeJob t.events := by
  refine Leaves.emit_bind (Leaves.bind ((Leaves.settle j.loop_inside).mono ?_))
  rintro (h | e | result) t inner
  · obtain ⟨rfl, -⟩ := inner
    exact Leaves.Then.error fun h => absurd rfl h
  · refine Leaves.Then.ok (Leaves.emit_bind (Leaves.publish_bind (Leaves.fail fun _ => ?_)))
    simpa [Event.job] using WholeJob.intro (.jobFailed j.name e.message) inner.noStart rfl
  · refine Leaves.Then.ok (Leaves.emit_bind (Leaves.publish_bind (Leaves.pure fun _ => ?_)))
    simpa [Event.job] using
      WholeJob.intro (.jobCompleted j.name result.outcome.name result.iterations) inner.noStart rfl

end RequestJob

namespace Engine

/-! ## Legs -/

/-- **A leg of a run**: a request job, and the world that it starts in. -/
structure Leg where
  job : RequestJob
  start : World

namespace Leg

/-- What the job comes to. -/
def result (leg : Leg) : Except Halt JobReport := (leg.job.run leg.start).1

/-- The world that the job leaves. -/
def finish (leg : Leg) : World := (leg.job.run leg.start).2

/-- What the job tells. -/
def log (leg : Leg) : List Event := leg.finish.events.drop leg.start.events.length

lemma events (leg : Leg) : leg.finish.events = leg.start.events ++ leg.log := by
  obtain ⟨t, ht, -⟩ := leg.job.run_whole leg.start
  have told : leg.finish.events = leg.start.events ++ t.events := congrArg Trail.events ht
  rw [log, told, List.drop_left]

lemma whole {leg : Leg} (h : leg.result ≠ .error .hung) : WholeJob leg.log := by
  obtain ⟨t, ht, whole⟩ := leg.job.run_whole leg.start
  have told : leg.finish.events = leg.start.events ++ t.events := congrArg Trail.events ht
  rw [log, told, List.drop_left]
  exact whole h

end Leg

/-- The reports of requests with one more in front. -/
def RequestRun.behind (report : JobReport) (r : RequestRun) : RequestRun :=
  { r with reports := report :: r.reports }

/-- **The legs of a run of requests**, with what the run comes to and the world that it leaves:
there is no request left, a stop keeps the next one from starting, or it starts. -/
inductive Course (stop run : Token) : Nat → List Request → Context → World → List Leg →
    Except Halt (Except EngineError RequestRun) → World → Prop where
  | done {index : Nat} {context : Context} {w : World} :
      Course stop run index [] context w [] (.ok (.ok ⟨[], context, false⟩)) w
  | cut {index : Nat} {request : Request} {rest : List Request} {context : Context} {w : World}
      (h : w.look.isStopRequested stop = true) :
      Course stop run index (request :: rest) context w [] (.ok (.ok ⟨[], context, true⟩)) w.look
  | hung {index : Nat} {request : Request} {rest : List Request} {context : Context} {w : World}
      {leg : Leg} (h : w.look.isStopRequested stop = false)
      (hl : leg = ⟨⟨request, context, run.child index⟩, w.look⟩)
      (hr : leg.result = .error .hung) :
      Course stop run index (request :: rest) context w [leg] (.error .hung) leg.finish
  | failed {index : Nat} {request : Request} {rest : List Request} {context : Context} {w : World}
      {leg : Leg} {e : RunError} (h : w.look.isStopRequested stop = false)
      (hl : leg = ⟨⟨request, context, run.child index⟩, w.look⟩)
      (hr : leg.result = .error (.failed e)) :
      Course stop run index (request :: rest) context w [leg] (.ok (.error (.job request.name e)))
        leg.finish
  | next {index : Nat} {request : Request} {rest : List Request} {context : Context} {w u : World}
      {leg : Leg} {legs : List Leg} {report : JobReport}
      {out : Except Halt (Except EngineError RequestRun)} (h : w.look.isStopRequested stop = false)
      (hl : leg = ⟨⟨request, context, run.child index⟩, w.look⟩) (hr : leg.result = .ok report)
      (hc : Course stop run (index + 1) rest report.context leg.finish legs out u) :
      Course stop run index (request :: rest) context w (leg :: legs)
        (out.map (Except.map (·.behind report))) u

section Next

variable {stop run : Token} {index : Nat} {request : Request} {rest : List Request}
  {context : Context} {w u : World}

lemma runRequests_of_stopped (hs : w.look.isStopRequested stop = true) :
    runRequests stop run index (request :: rest) context w =
      (.ok (.ok ⟨[], context, true⟩), w.look) := by
  rw [runRequests, bind_ok (checkStop_apply stop w), hs, if_pos rfl]
  rfl

lemma runRequests_of_hung (hs : w.look.isStopRequested stop = false)
    (hr : RequestJob.run ⟨request, context, run.child index⟩ w.look = (.error .hung, u)) :
    runRequests stop run index (request :: rest) context w = (.error .hung, u) := by
  have settled : settle (RequestJob.run ⟨request, context, run.child index⟩) w.look =
      (.error .hung, u) := by rw [settle, hr]
  rw [runRequests, bind_ok (checkStop_apply stop w), hs, if_neg Bool.false_ne_true,
    bind_error settled]

lemma runRequests_of_failed {e : RunError} (hs : w.look.isStopRequested stop = false)
    (hr : RequestJob.run ⟨request, context, run.child index⟩ w.look = (.error (.failed e), u)) :
    runRequests stop run index (request :: rest) context w =
      (.ok (.error (.job request.name e)), u) := by
  have settled : settle (RequestJob.run ⟨request, context, run.child index⟩) w.look =
      (.ok (.error e), u) := by rw [settle, hr]
  rw [runRequests, bind_ok (checkStop_apply stop w), hs, if_neg Bool.false_ne_true,
    bind_ok settled]
  rfl

/-- A request that ends puts its report in front of those of the requests behind it. -/
lemma runRequests_of_ok {report : JobReport} (hs : w.look.isStopRequested stop = false)
    (hr : RequestJob.run ⟨request, context, run.child index⟩ w.look = (.ok report, u)) :
    runRequests stop run index (request :: rest) context w =
      ((runRequests stop run (index + 1) rest report.context u).1.map
        (Except.map (·.behind report)),
        (runRequests stop run (index + 1) rest report.context u).2) := by
  have settled : settle (RequestJob.run ⟨request, context, run.child index⟩) w.look =
      (.ok (.ok report), u) := by rw [settle, hr]
  rw [runRequests, bind_ok (checkStop_apply stop w), hs, if_neg Bool.false_ne_true,
    bind_ok settled]
  dsimp only
  rw [bind_apply]
  rcases runRequests stop run (index + 1) rest report.context u with ⟨h | e | r, v⟩ <;> rfl

end Next

/-- **Every run of requests has a course.** -/
theorem runRequests_course (stop run : Token) (index : Nat) (requests : List Request)
    (context : Context) (w : World) :
    ∃ legs, Course stop run index requests context w legs
      (runRequests stop run index requests context w).1
      (runRequests stop run index requests context w).2 := by
  induction requests generalizing index context w with
  | nil => exact ⟨[], .done⟩
  | cons request rest ih =>
      rcases hs : w.look.isStopRequested stop with _ | _
      · let leg : Leg := ⟨⟨request, context, run.child index⟩, w.look⟩
        have ran : leg.job.run w.look = (leg.result, leg.finish) := rfl
        rcases hr : leg.result with (e | _) | report <;> rw [hr] at ran
        · rw [runRequests_of_failed hs ran]
          exact ⟨[leg], .failed hs rfl hr⟩
        · rw [runRequests_of_hung hs ran]
          exact ⟨[leg], .hung hs rfl hr⟩
        · obtain ⟨legs, later⟩ := ih (index + 1) report.context leg.finish
          rw [runRequests_of_ok hs ran]
          exact ⟨leg :: legs, .next hs rfl hr later⟩
      · rw [runRequests_of_stopped hs]
        exact ⟨[], .cut hs⟩

/-- **One leg follows another**: it starts in the context and in the world that the other one, which
did not fail, has left. -/
def Leg.Follows (leg before : Leg) : Prop :=
  ∃ report, before.result = .ok report ∧ leg.job.context = report.context ∧
    leg.start = before.finish.look

namespace Course

variable {stop run : Token} {index : Nat} {requests : List Request} {context : Context}
  {w u : World} {legs : List Leg} {out : Except Halt (Except EngineError RequestRun)}

/-- The legs are those of the first requests. -/
lemma requests_prefix (h : Course stop run index requests context w legs out u) :
    legs.map (fun leg => leg.job.request) <+: requests := by
  induction h with
  | done => exact List.prefix_refl _
  | cut h => exact List.nil_prefix
  | hung h hl hr => rw [hl]; exact (List.prefix_cons_inj _).2 List.nil_prefix
  | failed h hl hr => rw [hl]; exact (List.prefix_cons_inj _).2 List.nil_prefix
  | next h hl hr hc ih => rw [hl]; exact (List.prefix_cons_inj _).2 ih

lemma first (h : Course stop run index requests context w legs out u) :
    ∀ leg ∈ legs.head?, leg.job.context = context ∧ leg.start = w.look := by
  cases h with
  | done => rintro leg ⟨⟩
  | cut h => rintro leg ⟨⟩
  | hung h hl hr => rintro leg ⟨⟩; rw [hl]; exact ⟨rfl, rfl⟩
  | failed h hl hr => rintro leg ⟨⟩; rw [hl]; exact ⟨rfl, rfl⟩
  | next h hl hr hc => rintro leg ⟨⟩; rw [hl]; exact ⟨rfl, rfl⟩

/-- No leg starts once the stop has been asked for. -/
lemma running (h : Course stop run index requests context w legs out u) :
    ∀ leg ∈ legs, leg.start.isStopRequested stop = false := by
  induction h with
  | done => exact fun _ hm => (List.not_mem_nil hm).elim
  | cut h => exact fun _ hm => (List.not_mem_nil hm).elim
  | hung h hl hr =>
      intro leg hm
      cases List.mem_singleton.1 hm
      rwa [hl]
  | failed h hl hr =>
      intro leg hm
      cases List.mem_singleton.1 hm
      rwa [hl]
  | next h hl hr hc ih =>
      intro leg hm
      rcases List.mem_cons.1 hm with rfl | hm
      · rwa [hl]
      · exact ih leg hm

/-- Every leg follows the one before. -/
lemma chain (h : Course stop run index requests context w legs out u) :
    legs.IsChain fun before leg => leg.Follows before := by
  induction h with
  | done => exact .nil
  | cut h => exact .nil
  | hung h hl hr => exact .singleton _
  | failed h hl hr => exact .singleton _
  | next h hl hr hc ih =>
      refine List.isChain_cons.2 ⟨fun leg hm => ?_, ih⟩
      obtain ⟨same, start⟩ := hc.first leg hm
      exact ⟨_, hr, same, start⟩

/-- **A leg that fails is the last thing that happens**, and its error is that of the run. -/
lemma of_failed (h : Course stop run index requests context w legs out u) :
    ∀ leg ∈ legs, ∀ e, leg.result = .error (.failed e) →
      out = .ok (.error (.job leg.job.request.name e)) ∧ u = leg.finish := by
  induction h with
  | done => exact fun _ hm => (List.not_mem_nil hm).elim
  | cut h => exact fun _ hm => (List.not_mem_nil hm).elim
  | hung h hl hr =>
      intro leg hm e he
      cases List.mem_singleton.1 hm
      cases hr.symm.trans he
  | @failed index request rest context w leg e h hl hr =>
      intro leg' hm e' he
      cases List.mem_singleton.1 hm
      cases hr.symm.trans he
      exact ⟨by rw [hl], rfl⟩
  | next h hl hr hc ih =>
      intro leg hm e he
      rcases List.mem_cons.1 hm with rfl | hm
      · cases hr.symm.trans he
      · obtain ⟨rfl, last⟩ := ih leg hm e he
        exact ⟨rfl, last⟩

lemma of_hung (h : Course stop run index requests context w legs out u) :
    ∀ leg ∈ legs, leg.result = .error .hung → out = .error .hung := by
  induction h with
  | done => exact fun _ hm => (List.not_mem_nil hm).elim
  | cut h => exact fun _ hm => (List.not_mem_nil hm).elim
  | hung h hl hr => exact fun _ _ _ => rfl
  | failed h hl hr =>
      intro leg hm he
      cases List.mem_singleton.1 hm
      cases hr.symm.trans he
  | next h hl hr hc ih =>
      intro leg hm he
      rcases List.mem_cons.1 hm with rfl | hm
      · cases hr.symm.trans he
      · rw [ih leg hm he]
        rfl

/-- A run that comes to nothing waits for ever. -/
lemma of_error {e : Halt} (h : Course stop run index requests context w legs (.error e) u) :
    e = .hung := by
  generalize ho : (.error e : Except Halt (Except EngineError RequestRun)) = out at h
  induction h with
  | done => cases ho
  | cut h => cases ho
  | hung h hl hr => cases ho; rfl
  | failed h hl hr => cases ho
  | @next index request rest context w u leg legs report out h hl hr hc ih =>
      rcases out with e' | e' | r <;> cases ho
      exact ih rfl

/-- The reports of a run are what its legs come to; without a cut there is one for each request. -/
lemma reports {r : RequestRun} (h : Course stop run index requests context w legs out u)
    (ho : out = .ok (.ok r)) : legs.map Leg.result = r.reports.map .ok ∧
      (r.cut = false → legs.map (fun leg => leg.job.request) = requests) := by
  induction h generalizing r with
  | done => cases ho; exact ⟨rfl, fun _ => rfl⟩
  | cut h => cases ho; exact ⟨rfl, nofun⟩
  | hung h hl hr => cases ho
  | failed h hl hr => cases ho
  | @next index request rest context w u leg legs report out h hl hr hc ih =>
      rcases out with e | e | later
      · cases ho
      · cases ho
      · cases ho
        obtain ⟨results, all⟩ := ih rfl
        refine ⟨?_, fun hcut => ?_⟩
        · rw [List.map_cons, hr, results]
          rfl
        · rw [List.map_cons, all hcut, hl]

/-- What a run tells is what its legs tell. -/
lemma events (h : Course stop run index requests context w legs out u) :
    u.events = w.events ++ legs.flatMap Leg.log := by
  induction h with
  | done => exact (List.append_nil _).symm
  | cut h => exact (List.append_nil _).symm
  | @hung index request rest context w leg h hl hr =>
      rw [leg.events, hl, List.flatMap_singleton]
      rfl
  | @failed index request rest context w leg e h hl hr =>
      rw [leg.events, hl, List.flatMap_singleton]
      rfl
  | @next index request rest context w u leg legs report out h hl hr hc ih =>
      rw [ih, leg.events, List.flatMap_cons, List.append_assoc, hl]
      rfl

/-- The logs of a run only grow. -/
lemma trail (h : Course stop run index requests context w legs out u) :
    ∃ t, u.trail = w.trail ++ t := by
  have leg {leg : Leg} {w : World} (hs : leg.start = w.look) :
      ∃ t, leg.finish.trail = w.trail ++ t := by
    obtain ⟨t, ht, -⟩ := leg.job.run_whole leg.start
    rw [hs, World.trail_look] at ht
    exact ⟨t, by rw [Leg.finish, hs]; exact ht⟩
  induction h with
  | done => exact ⟨.empty, (Trail.append_empty _).symm⟩
  | cut h => exact ⟨.empty, (Trail.append_empty _).symm⟩
  | hung h hl hr => exact leg (by rw [hl])
  | failed h hl hr => exact leg (by rw [hl])
  | next h hl hr hc ih =>
      obtain ⟨t, ht⟩ := ih
      obtain ⟨t', ht'⟩ := leg (congrArg Leg.start hl)
      exact ⟨t' ++ t, by rw [ht, ht', Trail.append_assoc]⟩

/-- The legs of a run that comes to an end are whole. -/
lemma whole (h : Course stop run index requests context w legs out u)
    (ho : out ≠ .error .hung) : WholeJobs (legs.flatMap Leg.log) := by
  refine ⟨legs.map Leg.log, List.flatMap_def, fun log hm => ?_⟩
  obtain ⟨leg, hl, rfl⟩ := List.mem_map.1 hm
  exact Leg.whole fun hr => ho (h.of_hung leg hl hr)

end Course

/-! ## What comes after the requests -/

/-- The jobs of a run are those that are loaded, with tokens of their own behind that of the run. -/
lemma of_mem_forkingJobs {run : Token} {context : Context} {index : Nat} {jobs : List LoadedJob}
    {j : ForkingJob} (h : j ∈ forkingJobs run context index jobs) :
    ∃ job ∈ jobs, ∃ i, j = ⟨job.name, context, job.stages, run.child i⟩ := by
  induction jobs generalizing index with
  | nil => cases h
  | cons job rest ih =>
      rcases List.mem_cons.1 h with rfl | h
      · exact ⟨job, List.mem_cons_self .., index, rfl⟩
      · obtain ⟨other, ho, token⟩ := ih h
        exact ⟨other, List.mem_cons_of_mem _ ho, token⟩

/-- What an engine does after its requests: run the jobs, unless a stop keeps them from starting. -/
def afterRequests (e : Engine) (stop run : Token) (requests : RequestRun) :
    Work (Except EngineError EngineReport) := do
  if requests.cut then return .ok ⟨requests.reports, none, requests.context, true⟩
  else if e.jobs.isEmpty then
    return .ok ⟨requests.reports, none, requests.context, ← checkStop stop⟩
  else if ← checkStop stop then return .ok ⟨requests.reports, none, requests.context, true⟩
  else
    let jobs ← e.runJobs stop run requests.context
    let stopped ← checkStop stop
    return .ok ⟨requests.reports, some jobs, requests.context, stopped || jobs.cancelled⟩

variable {e : Engine} {stop run : Token} {w u : World} {r : RequestRun}

lemma run_of_halt {halt : Halt}
    (h : runRequests stop run 1 e.requests e.context w = (.error halt, u)) :
    e.run stop run w = (.error halt, u) :=
  bind_error h _

lemma run_of_error {error : EngineError}
    (h : runRequests stop run 1 e.requests e.context w = (.ok (.error error), u)) :
    e.run stop run w = (.ok (.error error), u) :=
  bind_ok h _

lemma run_of_ok (h : runRequests stop run 1 e.requests e.context w = (.ok (.ok r), u)) :
    e.run stop run w = e.afterRequests stop run r u :=
  bind_ok h _

/-- **Where the jobs are not run**: after a cut, where there are none, or where a stop is seen. -/
lemma afterRequests_of_none (run : Token)
    (h : r.cut = true ∨ e.jobs = [] ∨ w.look.isStopRequested stop = true) :
    ∃ u stopped, (u = w ∨ u = w.look) ∧ e.afterRequests stop run r w =
      (.ok (.ok ⟨r.reports, none, r.context, stopped⟩), u) := by
  rw [afterRequests]
  rcases hc : r.cut with _ | _
  · rcases hj : e.jobs with _ | ⟨job, jobs⟩
    · exact ⟨w.look, _, .inr rfl, rfl⟩
    · have stopped : w.look.isStopRequested stop = true := by simpa [hc, hj] using h
      refine ⟨w.look, true, .inr rfl, ?_⟩
      rw [if_neg Bool.false_ne_true, if_neg (by simp), bind_ok (checkStop_apply stop w), stopped]
      rfl
  · exact ⟨w, true, .inl rfl, rfl⟩

/-- **Where the jobs are run.** -/
lemma afterRequests_of_some (hc : r.cut = false) (hj : e.jobs ≠ [])
    (hs : w.look.isStopRequested stop = false) :
    e.afterRequests stop run r w = match e.runJobs stop run r.context w.look with
      | (.error halt, u) => (.error halt, u)
      | (.ok jobs, u) => (.ok (.ok ⟨r.reports, some jobs, r.context,
          u.look.isStopRequested stop || jobs.cancelled⟩), u.look) := by
  have some_jobs : ¬ e.jobs.isEmpty = true := by simpa using hj
  rw [afterRequests, hc, if_neg Bool.false_ne_true, if_neg some_jobs,
    bind_ok (checkStop_apply stop w), hs, if_neg Bool.false_ne_true, bind_apply]
  rcases e.runJobs stop run r.context w.look with ⟨halt | jobs, u⟩ <;> rfl

/-! ## In turn -/

/-- **The request jobs of a run start in turn**, and nothing starts after one that fails. -/
structure InTurn (e : Engine) (stop : Token) (w : World) (legs : List Leg)
    (out : Except Halt (Except EngineError EngineReport) × World) : Prop where
  requests : legs.map (fun leg => leg.job.request) <+: e.requests
  /-- The first request job starts from the context of the engine. -/
  first : ∀ leg ∈ legs.head?, leg.job.context = e.context ∧ leg.start = w.look
  /-- Every other one starts from the context that the one before has left. -/
  next : legs.IsChain fun before leg => leg.Follows before
  /-- No request job starts once the stop has been asked for. -/
  running : ∀ leg ∈ legs, leg.start.isStopRequested stop = false
  /-- Nothing happens after a request job that fails. -/
  failed : ∀ leg ∈ legs, ∀ error, leg.result = .error (.failed error) →
    out = (.ok (.error (.job leg.job.request.name error)), leg.finish)
  reports : ∀ report, out.1 = .ok (.ok report) → legs.map Leg.result = report.requests.map .ok
  /-- The run tells what its request jobs tell, and what its jobs tell if there was a report for
  every request. -/
  events : ∃ jobs, out.2.events = w.events ++ legs.flatMap Leg.log ++ jobs ∧
    (jobs ≠ [] → legs.map (fun leg => leg.job.request) = e.requests ∧
      ∀ leg ∈ legs, ∃ report, leg.result = .ok report)

/-- What an engine does after its requests adds to the logs, and leaves the reports of the requests
as they are. -/
lemma afterRequests_reports (e : Engine) (stop run : Token) (r : RequestRun) (w : World) :
    (∀ report, (e.afterRequests stop run r w).1 = .ok (.ok report) → report.requests = r.reports) ∧
      ∃ t, (e.afterRequests stop run r w).2.trail = w.trail ++ t ∧
        (t.events ≠ [] → r.cut = false) := by
  by_cases hn : r.cut = true ∨ e.jobs = [] ∨ w.look.isStopRequested stop = true
  · obtain ⟨u, stopped, hu, ends⟩ := afterRequests_of_none run hn
    rw [ends]
    have quiet : u.trail = w.trail := by rcases hu with rfl | rfl <;> rfl
    refine ⟨by rintro report ⟨⟩; rfl, .empty, ?_, fun told => absurd rfl told⟩
    rw [Trail.append_empty]
    exact quiet
  · simp only [not_or, Bool.not_eq_true] at hn
    obtain ⟨hc, hj, hs⟩ := hn
    obtain ⟨⟨t, ht, -⟩, -⟩ := ((Scheduler.run_worksOff _ _ w.look _).2 rfl :
      WorksOff _ _ w.look (e.runJobs stop run r.context w.look)).grows
    rw [afterRequests_of_some hc hj hs]
    rcases hr : e.runJobs stop run r.context w.look with ⟨h | jobs, u⟩ <;> rw [hr] at ht
    · exact ⟨nofun, t, ht, fun _ => hc⟩
    · exact ⟨by rintro report ⟨⟩; rfl, t, ht, fun _ => hc⟩

/-- What an engine comes to, from what its requests come to. -/
lemma run_reports {x : Except Halt (Except EngineError RequestRun)}
    (h : runRequests stop run 1 e.requests e.context w = (x, u)) :
    (∃ t, (e.run stop run w).2.trail = u.trail ++ t) ∧
      ∀ report, (e.run stop run w).1 = .ok (.ok report) →
        ∃ r, x = .ok (.ok r) ∧ report.requests = r.reports := by
  rcases x with halt | error | r
  · rw [run_of_halt h]
    exact ⟨⟨.empty, (Trail.append_empty _).symm⟩, nofun⟩
  · rw [run_of_error h]
    exact ⟨⟨.empty, (Trail.append_empty _).symm⟩, nofun⟩
  · rw [run_of_ok h]
    obtain ⟨reports, t, ht, -⟩ := e.afterRequests_reports stop run r u
    exact ⟨⟨t, ht⟩, fun report hr => ⟨r, rfl, reports report hr⟩⟩

/-- **The request jobs of every run start in turn**, whatever stops there are. -/
theorem run_inTurn (e : Engine) (stop run : Token) (w : World) :
    ∃ legs, e.InTurn stop w legs (e.run stop run w) := by
  obtain ⟨legs, course⟩ := runRequests_course stop run 1 e.requests e.context w
  have told := course.events
  -- what is left to show of every ending: how a request fails, the reports and the events
  have inTurn (out : Except Halt (Except EngineError EngineReport) × World) :=
    @InTurn.mk e stop w legs out course.requests_prefix course.first course.chain course.running
  refine ⟨legs, ?_⟩
  rcases hr : runRequests stop run 1 e.requests e.context w with ⟨h | error | r, u⟩ <;>
    rw [hr] at course told
  · obtain rfl : h = .hung := course.of_error
    rw [run_of_halt hr]
    refine inTurn _ (fun leg hl error he => ?_) nofun ⟨[], by rw [told, List.append_nil], nofun⟩
    cases (course.of_failed leg hl error he).1
  · rw [run_of_error hr]
    refine inTurn _ (fun leg hl error' he => ?_) nofun ⟨[], by rw [told, List.append_nil], nofun⟩
    obtain ⟨same, rfl⟩ := course.of_failed leg hl error' he
    cases same
    rfl
  · rw [run_of_ok hr]
    obtain ⟨results, all⟩ := course.reports rfl
    obtain ⟨reports, t, ht, cut⟩ := e.afterRequests_reports stop run r u
    have later : (e.afterRequests stop run r u).2.events = u.events ++ t.events :=
      congrArg Trail.events ht
    refine inTurn _ (fun leg hl error he => ?_) (fun report h => by rw [reports report h, results])
      ⟨t.events, by rw [later, told], fun hj => ⟨all (cut hj), fun leg hl => ?_⟩⟩
    · cases (course.of_failed leg hl error he).1
    · have mem : leg.result ∈ legs.map Leg.result := List.mem_map_of_mem hl
      rw [results] at mem
      obtain ⟨report, -, h⟩ := List.mem_map.1 mem
      exact ⟨report, h.symm⟩

end Engine

end Connector
