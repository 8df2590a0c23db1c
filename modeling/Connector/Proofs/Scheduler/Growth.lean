import Connector.Proofs.Scheduler.Ledger

/-!
# How a scheduler run grows

Turn after turn, a scheduler run adds to its logs and to its report, and takes nothing back.  What
it adds to the events are whole jobs, each from its start to its end, but for a last one that never
ends or that overruns a cancellation.

* `WholeJob`, `WholeJobs` — the events of jobs from their start to their end.
* `Scheduler.turn_halt` — where a turn halts the run.
* `Scheduler.Starts.running` — no job starts once the stop signal has been given.
* `SchedulerReport.Begins` — one report is the beginning of another one.
* **`WorksOff.grows`** — what all turns of a queue add.
-/

namespace Connector

open Work

/-! ## Whole jobs -/

/-- Whether an event is that of the end of a job. -/
def Event.isEnd : Event → Bool
  | .jobCompleted _ _ _ | .jobFailed _ _ => true
  | _ => false

/-- **The events of one job from its start to its end**, with no other start and no other end. -/
inductive WholeJob : List Event → Prop where
  | intro (last : Event) {inner : List Event}
      (hi : ∀ e ∈ inner, e.isStart = false ∧ e.isEnd = false) (hl : last.isEnd = true) :
      WholeJob (.jobStarted last.job :: (inner ++ [last]))

/-- **The events of whole jobs**, one after the other. -/
def WholeJobs (log : List Event) : Prop :=
  ∃ jobs : List (List Event), log = jobs.flatten ∧ ∀ job ∈ jobs, WholeJob job

namespace WholeJobs

lemma nil : WholeJobs [] := ⟨[], rfl, nofun⟩

lemma cons {log more : List Event} (h : WholeJob log) (hm : WholeJobs more) :
    WholeJobs (log ++ more) := by
  obtain ⟨jobs, rfl, whole⟩ := hm
  refine ⟨log :: jobs, rfl, fun job hj => ?_⟩
  rcases List.mem_cons.1 hj with rfl | hj
  · exact h
  · exact whole job hj

lemma append {log more : List Event} (h : WholeJobs log) (hm : WholeJobs more) :
    WholeJobs (log ++ more) := by
  obtain ⟨jobs, rfl, whole⟩ := h
  obtain ⟨later, rfl, whole'⟩ := hm
  refine ⟨jobs ++ later, List.flatten_append.symm, fun job hj => ?_⟩
  exact (List.mem_append.1 hj).elim (whole job) (whole' job)

end WholeJobs

lemma Inside.noStart {log : List Event} (h : Inside log) :
    ∀ e ∈ log, e.isStart = false ∧ e.isEnd = false := by
  intro e he
  have inside := h e he
  cases e <;> first | exact ⟨rfl, rfl⟩ | cases inside

/-- A forking job that lets the run go on is whole. -/
lemma Scheduler.JobLog.whole {s : Scheduler} {job : ForkingJob} {st st' : SchedulerState}
    {log : List Event} (h : s.JobLog job st (.ok (.goOn, st')) log) : WholeJob log := by
  cases h with
  | @completed st' hl inner hi outcome contexts outputs children hc =>
      rw [← List.append_assoc]
      refine .intro (.jobCompleted job.name outcome children.length) ?_ rfl
      intro e he
      rcases List.mem_append.1 he with he | he
      · exact hi.noStart e he
      · obtain ⟨child, -, rfl⟩ := List.mem_map.1 he
        exact ⟨rfl, rfl⟩
  | @failed st' hl inner hi e =>
      exact .intro (.jobFailed job.name e.message) hi.noStart rfl

/-! ## How a run of jobs is halted -/

namespace Scheduler

variable {s : Scheduler} {st st' : SchedulerState} {w u : World}

/-- A check lets a run go on only where its stop signal has not been given. -/
lemma check_goOn {stop : Token} {waiting : Bool} (hs : s.signal = some stop)
    (h : s.check waiting st w = (.ok (.goOn, st'), u)) : u.isStopRequested stop = false := by
  rw [check, bind_ok (checkStop_apply _ _)] at h
  rcases hc : w.look.isStopRequested s.cancel with _ | _ <;> rw [hc] at h
  · rw [hs, if_neg Bool.false_ne_true] at h
    dsimp only at h
    rw [bind_ok (checkStop_apply _ _)] at h
    rcases seen : w.look.look.isStopRequested stop with _ | _ <;> rw [seen] at h <;> cases h
    exact seen
  · cases h

/-- A turn halts a run where the run is cancelled, and else before a job starts. -/
lemma turn_halt (h : s.turn st w = (.ok (.halt, st'), u)) :
    u.isStopRequested s.cancel = true ∨ u.trail = w.trail := by
  obtain ⟨v, looked, ⟨-, ends⟩ | ⟨job, rest, -, -, runs⟩⟩ := s.turn_cases st w
  · refine .inr ?_
    have same : u = v := by
      rcases ends with cancelled | ⟨-, idle⟩
      · exact congrArg Prod.snd (h.symm.trans cancelled)
      · exact congrArg Prod.snd (h.symm.trans idle)
    rcases looked with rfl | rfl <;> rw [same] <;> rfl
  · exact .inl (runJob_halt (runs.symm.trans h)).2

end Scheduler

/-! ## Where jobs start -/

/-- **A job starts in a world**, in this turn of a queue or in a later one. -/
inductive Scheduler.Starts (s : Scheduler) : SchedulerState → World → World → Prop where
  | now {st st' : SchedulerState} {w u : World} (hq : st.queued ≠ [])
      (hc : s.check true st w = (.ok (.goOn, st'), u)) : Starts s st w u
  | later {st st' : SchedulerState} {w u v : World} (ht : s.turn st w = (.ok (.goOn, st'), u))
      (hs : Starts s st' u v) : Starts s st w v

/-- **No job starts once the stop signal has been given.** -/
theorem Scheduler.Starts.running {s : Scheduler} {stop : Token} {st : SchedulerState}
    {w u : World} (h : s.Starts st w u) (hs : s.signal = some stop) :
    u.isStopRequested stop = false := by
  induction h with
  | now hq hc => exact check_goOn hs hc
  | later ht _ ih => exact ih

/-! ## What every turn adds -/

/-- **One report begins another one**: nothing that it lists is missing or different there. -/
structure SchedulerReport.Begins (r r' : SchedulerReport) : Prop where
  outputs : r.outputs <+: r'.outputs
  failures : r.failures <+: r'.failures

namespace SchedulerReport.Begins

variable {r r' r'' : SchedulerReport}

lemma refl (r : SchedulerReport) : r.Begins r := ⟨List.prefix_refl _, List.prefix_refl _⟩

lemma trans (h : r.Begins r') (h' : r'.Begins r'') : r.Begins r'' :=
  ⟨h.outputs.trans h'.outputs, h.failures.trans h'.failures⟩

end SchedulerReport.Begins

namespace Scheduler

variable {s : Scheduler} {st st' : SchedulerState} {log : List Event}

lemma TurnLog.begins {p : Progress} (h : s.TurnLog st (.ok (p, st')) log) :
    st.report.Begins st'.report := by
  have adding {rest children : List ForkingJob} {failures : List (String × RunError)}
      {outputs : List Context} {st₂ : SchedulerState}
      (hl : s.TakesLate { st with queued := rest } st₂) :
      st.report.Begins (st₂.adding children failures outputs).report := by
    have same : st₂.report = st.report := by cases hl <;> rfl
    exact ⟨⟨outputs, by rw [← same]; rfl⟩, ⟨failures, by rw [← same]; rfl⟩⟩
  cases h with
  | idle hq => exact .refl _
  | cancelled => exact ⟨List.prefix_refl _, List.prefix_refl _⟩
  | ran hq h =>
      cases h with
      | completed hl hi outcome contexts outputs hc => exact adding hl
      | failed hl hi e => exact adding hl
      | @overran st' hl inner hi =>
          have begins : st.report.Begins (st'.adding [] [] []).report := adding hl
          exact ⟨begins.outputs, begins.failures⟩

/-- A turn that lets the run go on tells of a whole job. -/
lemma TurnLog.whole (h : s.TurnLog st (.ok (.goOn, st')) log) : WholeJob log := by
  cases h with
  | ran hq h => exact h.whole

end Scheduler

/-- **What a queue adds as it is worked off**: the logs grow, by whole jobs where the run comes to
an end and is not cancelled, and the report grows. -/
theorem WorksOff.grows {s : Scheduler} {st : SchedulerState} {w : World}
    {out : Except Halt SchedulerReport × World} (h : WorksOff s st w out) :
    (∃ t, out.2.trail = w.trail ++ t ∧ (out.1 ≠ .error .hung →
      out.2.isStopRequested s.cancel = false → WholeJobs t.events)) ∧
      ∀ report, out.1 = .ok report → st.report.Begins report := by
  induction h with
  | @halts st st' w u h =>
      obtain ⟨t, ht, log⟩ := s.turn_leaves st w
      rw [h] at ht log
      refine ⟨⟨t, ht, fun _ hs => ?_⟩, ?_⟩
      · rcases Scheduler.turn_halt h with stopped | quiet
        · cases hs.symm.trans stopped
        · have none : w.events ++ [] = w.events ++ t.events := by
            rw [List.append_nil]
            exact congrArg Trail.events (quiet.symm.trans ht)
          rw [← List.append_cancel_left none]
          exact .nil
      · rintro report ⟨⟩
        exact log.begins
  | @breaks st w u e h =>
      obtain ⟨t, ht, log⟩ := s.turn_leaves st w
      rw [h] at ht log
      refine ⟨⟨t, ht, fun halted => ?_⟩, nofun⟩
      cases log with
      | ran hq hj =>
          obtain ⟨rfl, -⟩ := hj.of_error
          exact absurd rfl halted
  | @turns st st' w u out h _ ih =>
      obtain ⟨t, ht, log⟩ := s.turn_leaves st w
      rw [h] at ht log
      obtain ⟨⟨t', ht', whole⟩, begins⟩ := ih
      refine ⟨⟨t ++ t', by rw [ht', ht, Trail.append_assoc], fun ends hs => ?_⟩,
        fun report hr => ?_⟩
      · exact .cons log.whole (whole ends hs)
      · exact log.begins.trans (begins report hr)

end Connector
