import Connector.Proofs.Engine.Course
import Connector.Proofs.Loop.Stop

/-!
# Two runs, one of them stopped between its jobs

A stop of an engine is seen between its jobs and nowhere else: a job looks for stops of its own
token and of those it descends from, and the token of the engine is none of them.  So two runs, one
that is stopped and one that is not, go on alike, up to the first look between two jobs after the
stop was asked for; there the one ends and the other goes on.

* `World.Unstopped`, `World.Asks` — nobody asks for a stop, or only for that of the engine.
* `Beside` — the two worlds, up to that look; **`Beside.harmony`** — jobs keep them so.
* `RequestJob.run_cancelled` — a request job that is cancelled has seen a stop of its token.
* `CutShort` — what comes of two runs, one of them stopped.
* `Scheduler.turn_beside`, **`WorksOff.beside`** — one turn and all turns, in both runs.
-/

namespace Connector

open Work

/-- **Neither token descends from the other.** -/
structure Token.Apart (s t : Token) : Prop where
  left : ¬ s <+: t
  right : ¬ t <+: s

/-- A stop of a token does not reach those behind one that is apart from it. -/
lemma Token.Apart.not_prefix {s t u : Token} (h : Token.Apart s t) (hu : t <+: u) : ¬ s <+: u :=
  fun hs => (List.prefix_or_prefix_of_prefix hs hu).elim h.left h.right

namespace World

/-- **Nobody asks for a stop**, now or later. -/
structure Unstopped (w : World) : Prop where
  stops : w.stops = []
  interrupts : w.interrupts = []
  alarm : w.alarm = none

/-- **Stops are only asked of one token**, now and later, and only those of tokens behind another
one are passed on. -/
structure Asks (stop run : Token) (w : World) : Prop where
  stops : ∀ t ∈ w.stops, t = stop
  interrupts : ∀ ts ∈ w.interrupts, ∀ t ∈ ts, t = stop
  alarm : ∀ a ∈ w.alarm, ∀ t ∈ a.stops, t = stop
  relay : ∀ p ∈ w.relay, run <+: p.1

namespace Unstopped

variable {w : World}

/-- Where nobody asks, no job is stopped. -/
lemma notStopped (h : w.Unstopped) (t : Token) : w.isStopRequested t = false := by
  rw [isStopRequested, h.stops]
  rfl

/-- Nothing is heard of stops by looking. -/
lemma look (h : w.Unstopped) : w.look.Unstopped := by
  rw [look_of_no_interrupts h.interrupts]
  exact h

/-- The signal does not ring. -/
lemma ring_eq (h : w.Unstopped) : w.ring = w := by
  rw [ring, h.alarm]

/-- There is no stop to be passed on. -/
lemma passOn_eq (h : w.Unstopped) : w.passOn = w := by
  rw [passOn]
  split
  · rw [h.notStopped]
    rfl
  · rfl

/-- No stop comes in with an answer. -/
lemma exchange (h : w.Unstopped) (r : Http.Request) : (w.exchange r).Unstopped := by
  have arrived : (w.count r).Unstopped := ⟨h.stops, h.interrupts, h.alarm⟩
  rw [World.exchange, arrive, arrived.ring_eq, arrived.passOn_eq]
  exact ⟨h.stops, h.interrupts, h.alarm⟩

end Unstopped

namespace Asks

variable {stop run : Token} {w : World}

/-- A stop that is asked for at another token stops no job of the run. -/
lemma notStopped (ha : Token.Apart stop run) (h : w.Asks stop run) {t : Token} (ht : run <+: t) :
    w.isStopRequested t = false := by
  refine List.any_eq_false.2 fun s hs => ?_
  rw [List.isPrefixOf_iff_prefix, h.stops s hs]
  exact ha.not_prefix ht

lemma look (h : w.Asks stop run) : w.look.Asks stop run := by
  refine ⟨fun t ht => ?_, fun ts hts => h.interrupts ts (List.mem_of_mem_tail hts), h.alarm,
    h.relay⟩
  rcases List.mem_append.1 ht with ht | ht
  · exact h.stops t ht
  · rcases hi : w.interrupts with _ | ⟨first, rest⟩ <;> rw [hi] at ht
    · cases ht
    · exact h.interrupts first (hi ▸ List.mem_cons_self ..) t ht

lemma ring (h : w.Asks stop run) : w.ring.Asks stop run := by
  rcases ha : w.alarm with _ | a
  · rw [World.ring, ha]
    exact h
  · rcases hr : w.rung with _ | states
    · rw [World.ring, ha, hr]
      dsimp only
      split_ifs
      · refine ⟨fun t ht => ?_, h.interrupts, ha ▸ h.alarm, h.relay⟩
        exact (List.mem_append.1 ht).elim (h.stops t) (h.alarm a ha t)
      · exact h
    · rw [World.ring, ha, hr]
      exact h

/-- No stop is passed on. -/
lemma passOn_eq (ha : Token.Apart stop run) (h : w.Asks stop run) : w.passOn = w := by
  rw [passOn]
  split
  · rename_i source target hr
    rw [h.notStopped ha (h.relay _ hr)]
    rfl
  · rfl

/-- An exchange may bring a stop in, but none for the jobs of the run. -/
lemma exchange (ha : Token.Apart stop run) (h : w.Asks stop run) (r : Http.Request) :
    (w.exchange r).Asks stop run := by
  have arrived : (w.count r).Asks stop run := ⟨h.stops, h.interrupts, h.alarm, h.relay⟩
  rw [World.exchange, arrive, arrived.ring.passOn_eq ha]
  exact ⟨arrived.ring.stops, arrived.ring.interrupts, arrived.ring.alarm, arrived.ring.relay⟩

end Asks

end World

/-! ## Two worlds until the stop is seen -/

/-- **The worlds of two runs**: nobody asks for a stop in the first one, and in the second one only
for that of the engine; they differ in nothing else. -/
structure Beside (stop run : Token) (u v : World) : Prop where
  quiet : u.quiet = v.quiet
  unstopped : u.Unstopped
  asks : v.Asks stop run

namespace Beside

variable {stop run : Token} {u v : World}

/-- Runs side by side have left the same so far. -/
lemma trail (h : Beside stop run u v) : u.trail = v.trail := (congrArg World.trail h.quiet :)

lemma look (h : Beside stop run u v) : Beside stop run u.look v.look :=
  ⟨h.quiet, h.unstopped.look, h.asks.look⟩

/-- The worlds stay side by side where both change alike and no stop is asked for. -/
lemma change {u' v' : World} (h : Beside stop run u v) (hq : u'.quiet = v'.quiet)
    (hu : u'.stops = u.stops ∧ u'.interrupts = u.interrupts ∧ u'.alarm = u.alarm)
    (hv : v'.stops = v.stops ∧ v'.interrupts = v.interrupts ∧ v'.alarm = v.alarm ∧
      v'.relay = v.relay) : Beside stop run u' v' where
  quiet := hq
  unstopped := ⟨hu.1 ▸ h.unstopped.stops, hu.2.1 ▸ h.unstopped.interrupts,
    hu.2.2 ▸ h.unstopped.alarm⟩
  asks := ⟨hv.1 ▸ h.asks.stops, hv.2.1 ▸ h.asks.interrupts, hv.2.2.1 ▸ h.asks.alarm,
    hv.2.2.2 ▸ h.asks.relay⟩

/-- **Jobs keep the worlds side by side**: they look for no stop but those of their own run. -/
lemma harmony (ha : Token.Apart stop run) :
    Harmony (Beside stop run) (fun _ => True) (run <+: ·) where
  functions h := (congrArg World.functions h.quiet :)
  network h := (congrArg World.network h.quiet :)
  answers h := (congrArg World.answers h.quiet :)
  store h := (congrArg World.store h.quiet :)
  outages h := (congrArg World.outages h.quiet :)
  stopped ht h := (h.unstopped.notStopped _).trans (h.asks.notStopped ha ht).symm
  child n ht := ht.trans (List.prefix_append _ _)
  skipped _ _ := trivial
  tell {_ _ e} _ h := h.change (congrArg (World.tell e) h.quiet) ⟨rfl, rfl, rfl⟩ ⟨rfl, rfl, rfl, rfl⟩
  print s h := h.change (congrArg (World.print s) h.quiet) ⟨rfl, rfl, rfl⟩ ⟨rfl, rfl, rfl, rfl⟩
  display t s h :=
    h.change (congrArg (World.display t s) h.quiet) ⟨rfl, rfl, rfl⟩ ⟨rfl, rfl, rfl, rfl⟩
  look h := h.look
  exchange r h := by
    refine ⟨?_, h.unstopped.exchange r, h.asks.exchange ha r⟩
    rw [World.quiet_exchange, World.quiet_exchange, h.quiet]
  relay s job hs h := by
    refine ⟨h.quiet, ⟨h.unstopped.stops, h.unstopped.interrupts, h.unstopped.alarm⟩,
      ⟨h.asks.stops, h.asks.interrupts, h.asks.alarm, fun p hp => ?_⟩⟩
    obtain ⟨t, -, rfl⟩ := Option.map_eq_some_iff.1 hp
    exact hs

/-- Every request takes up its responses alike. -/
lemma digests (ha : Token.Apart stop run) (request : Request) :
    request.Digests (Beside stop run) := by
  refine fun token i r context => (harmony ha).digest _ ?_ (fun _ _ => trivial)
    (fun _ _ => trivial) i r context
  intro s w u h
  exact h.change (congrArg (World.keep s) h.quiet) ⟨rfl, rfl, rfl⟩ ⟨rfl, rfl, rfl, rfl⟩

end Beside

/-- **A request job of a run does the same in both worlds.** -/
lemma Beside.requestJob_run {stop run : Token} (ha : Token.Apart stop run) (request : Request)
    (context : Context) (index : Nat) :
    Steady (Beside stop run) (RequestJob.run ⟨request, context, run.child index⟩) :=
  Harmony.requestJob_run (fun _ _ => trivial) (Beside.harmony ha) (Beside.digests ha request)
    (List.prefix_append _ _)

/-- A world, and the same without its stops. -/
lemma World.Asks.beside {stop run : Token} {w : World} (hw : w.Asks stop run) :
    Beside stop run w.quiet w :=
  ⟨rfl, ⟨rfl, rfl, rfl⟩, hw⟩

/-- A world, and the same with a stop after some requests. -/
lemma World.Unstopped.beside {stop : Token} {w : World} (hw : w.Unstopped) (hr : w.relay = none)
    (run : Token) (n : Nat) : Beside stop run w (w.stopAfter stop n) := by
  have none : ∀ p ∈ w.relay, run <+: p.1 := by
    rw [hr]
    nofun
  cases n with
  | zero =>
      have asked : w.stopAfter stop 0 = { w with stops := w.stops ++ [stop] } := by
        simp [World.stopAfter, World.requestStops, World.passOn, hr]
      rw [asked]
      exact ⟨rfl, hw, ⟨by simp [hw.stops], by simp [hw.interrupts], by simp [hw.alarm], none⟩⟩
  | succ n =>
      refine ⟨rfl, hw, ⟨?_, ?_, ?_, none⟩⟩
      · simp [World.stopAfter, hw.stops]
      · simp [World.stopAfter, hw.interrupts]
      · simp [World.stopAfter]

/-! ## What is cancelled has seen a stop -/

namespace Loop

variable {l : Loop}

/-- No answer cancels a loop. -/
lemma receive_yields (l : Loop) (i : Nat) (answer : Answer) (context : Context) :
    Yields (l.receive i answer context) fun r => ∀ c, r ≠ .ended .cancelled c := by
  cases answer with
  | silence =>
      intro w r u h
      cases h
  | refusal e =>
      simp only [receive]
      split_ifs
      · exact Yields.pure fun c h => by cases h
      · exact Yields.fail
  | response r =>
      simp only [receive]
      split_ifs
      · exact Yields.pure fun c h => by cases h
      · exact Yields.after fun x => Yields.pure fun c h => by cases h

/-- A round ends as cancelled only if the stop of the loop was seen. -/
lemma round_cancelled {i : Nat} {answer : Option Answer} {c c' : Context} {w u : World}
    (h : l.round i answer c w = (.ok (.ended .cancelled c'), u)) :
    u.isStopRequested l.token = true := by
  rw [round_eq] at h
  obtain ⟨x, w', -, h⟩ := exists_of_bind_apply h
  rw [bind_ok (checkStop_apply _ _)] at h
  rcases hs : w'.look.isStopRequested l.token with _ | _ <;> rw [hs] at h
  · obtain ⟨a, v, -, h⟩ := exists_of_bind_apply h
    exact absurd rfl (receive_yields l i a x.2 v _ u h c')
  · cases h
    exact hs

/-- All rounds, by recursion on the answers still to come. -/
lemma finish_cancelled (answers : List Answer) {n : Nat} {c : Context} {w u : World}
    {r : LoopResult} (h : l.finish ⟨n, answers, c, w⟩ = (.ok r, u)) (hr : r.outcome = .cancelled) :
    u.isStopRequested l.token = true := by
  rcases hround : l.round (n + 1) answers.head? c w with ⟨e | ⟨outcome, c'⟩ | ⟨c', last⟩, v⟩
  · cases (finish_of_error hround).symm.trans h
  · cases (finish_of_ended hround).symm.trans h
    obtain rfl : outcome = .cancelled := hr
    exact round_cancelled hround
  · have last_page (hl : answers = [] ∨ last = true) : u.isStopRequested l.token = true := by
      cases (finish_of_last hround hl).symm.trans h
      cases hr
    match answers, last with
    | [], _ => exact last_page (.inl rfl)
    | _ :: _, true => exact last_page (.inr rfl)
    | answer :: rest, false =>
        have goes : l.Step ⟨n, answer :: rest, c, w⟩ _ := .intro hround
        rw [finish_of_step goes] at h
        rcases hf : l.finish ⟨n + 1, rest, c', v.display l.token .repeating⟩ with ⟨e | r', u'⟩ <;>
          rw [hf] at h <;> cases h
        exact finish_cancelled rest hf hr

lemma run_cancelled {context : Context} {w u : World} {r : LoopResult}
    (h : l.run context w = (.ok r, u)) (hr : r.outcome = .cancelled) :
    u.isStopRequested l.token = true := by
  rcases hc : l.resumed context w with e | c
  · cases (run_of_resumed_error hc).symm.trans h
  · exact finish_cancelled _ ((run_of_resumed hc).symm.trans h) hr

end Loop

/-- **A request job that is cancelled has seen a stop of its token.** -/
theorem RequestJob.run_cancelled {j : RequestJob} {w u : World} {report : JobReport}
    (h : j.run w = (.ok report, u)) (hr : report.outcome = .cancelled) :
    u.isStopRequested j.token = true := by
  rcases hs : (j.begun w).isStopRequested j.token with _ | _
  · rw [run_of_running hs] at h
    rcases hl : j.toLoop.run j.context (j.begun w) with ⟨(e | _) | r, v⟩ <;>
      rw [hl] at h <;> cases h
    exact Loop.run_cancelled hl hr
  · cases (run_of_stopped hs).symm.trans h
    exact hs

/-! ## Both runs of a queue -/

/-- **A scheduler that a stop of an engine reaches only between its jobs**: its own token and those
of its jobs are behind that of the run. -/
structure Scheduler.Serves (stop run : Token) (s : Scheduler) : Prop where
  cancel : run <+: s.cancel
  signal : s.signal = some stop
  late : s.late = none

/-- **What comes of two runs, one of them stopped**: the same, or the stopped one is cut short and
what it comes to is as `Q` says, next to what the other one comes to. -/
inductive CutShort {α : Type} (stop run : Token) (Q : α → Except Halt α → Prop) :
    Except Halt α × World → Except Halt α × World → Prop where
  | same {r : Except Halt α} {u v : World} (h : Beside stop run u v) :
      CutShort stop run Q (r, u) (r, v)
  | cut {a : α} {r : Except Halt α} {u v : World} (hq : Q a r)
      (ht : ∃ t, u.trail = v.trail ++ t) (hv : v.Asks stop run) :
      CutShort stop run Q (r, u) (.ok a, v)

namespace CutShort

variable {α β : Type} {stop run : Token} {Q : α → Except Halt α → Prop}
  {full cut : Except Halt α × World}

/-- Where the stopped run is cut short, whatever the other one comes to. -/
lemma of_cut {a : α} {v : World} (hq : Q a full.1) (ht : ∃ t, full.2.trail = v.trail ++ t)
    (hv : v.Asks stop run) : CutShort stop run Q full (.ok a, v) :=
  .cut hq ht hv

lemma asks (h : CutShort stop run Q full cut) : cut.2.Asks stop run := by
  cases h with
  | same h => exact h.asks
  | cut hq ht hv => exact hv

/-- What was cut short has left a part of what the full run leaves. -/
lemma trail (h : CutShort stop run Q full cut) : ∃ t, full.2.trail = cut.2.trail ++ t := by
  cases h with
  | same h => exact ⟨.empty, by rw [h.trail, Trail.append_empty]⟩
  | cut hq ht hv => exact ht

/-- A function on the values of both runs cuts the one short as before. -/
lemma map {f : α → β} {Q' : β → Except Halt β → Prop} (hf : ∀ a r, Q a r → Q' (f a) (r.map f))
    (h : CutShort stop run Q full cut) :
    CutShort stop run Q' (full.1.map f, full.2) (cut.1.map f, cut.2) := by
  cases h with
  | same h => exact .same h
  | cut hq ht hv => exact .cut (hf _ _ hq) ht hv

end CutShort

/-- What a run that was cut short reports begins what the other one reports, if it does. -/
def SchedulerReport.Cuts (r : SchedulerReport) (out : Except Halt SchedulerReport) : Prop :=
  ∀ r', out = .ok r' → r.Begins r'

namespace Scheduler

variable {s : Scheduler} {stop run : Token} {st : SchedulerState} {u v : World}

/-- Where nobody asks for a stop, a scheduler always goes on. -/
lemma check_unstopped (hs : s.Serves stop run) (h : u.Unstopped) (waiting : Bool)
    (st : SchedulerState) :
    s.check waiting st u = (.ok (.goOn, st), u.look.look) := by
  rw [check, bind_ok (checkStop_apply _ _), h.look.notStopped, hs.signal,
    if_neg Bool.false_ne_true]
  dsimp only
  rw [bind_ok (checkStop_apply _ _), h.look.look.notStopped]
  rfl

/-- The stop is seen when it has been asked for. -/
lemma check_asks (ha : Token.Apart stop run) (hs : s.Serves stop run) (h : v.Asks stop run)
    (waiting : Bool) (st : SchedulerState) :
    s.check waiting st v = (.ok (if v.look.look.isStopRequested stop then
      (.halt, if waiting then st.cancelled else st) else (.goOn, st)), v.look.look) := by
  rw [check, bind_ok (checkStop_apply _ _), h.look.notStopped ha hs.cancel, hs.signal,
    if_neg Bool.false_ne_true]
  dsimp only
  rw [bind_ok (checkStop_apply _ _)]
  rcases v.look.look.isStopRequested stop with _ | _ <;> rfl

/-- **One turn in both runs**: the same, or only the stopped run ends, before a job starts. -/
inductive TurnBeside (s : Scheduler) (stop run : Token) (st : SchedulerState) (u v : World) :
    Prop where
  | same {r : Except Halt (Progress × SchedulerState)} {u' v' : World}
      (hu : s.turn st u = (r, u')) (hv : s.turn st v = (r, v')) (h : Beside stop run u' v')
  | cut {v' : World} (hv : s.turn st v = (.ok (.halt, st.cancelled), v'))
      (ht : v'.trail = v.trail) (ha : v'.Asks stop run)

/-- A turn with a stop beside one without it, from the looks to the job that is run. -/
lemma turn_beside (ha : Token.Apart stop run) (hs : s.Serves stop run)
    (hq : ∀ job ∈ st.queued, run <+: job.token) (h : Beside stop run u v) :
    s.TurnBeside stop run st u v := by
  obtain ⟨report, queued, lateQueued⟩ := st
  have goes (waiting : Bool) := check_unstopped hs h.unstopped waiting ⟨report, queued, lateQueued⟩
  have asks (waiting : Bool) := check_asks ha hs h.asks waiting ⟨report, queued, lateQueued⟩
  rcases queued with _ | ⟨job, rest⟩
  · refine .same (bind_ok (goes false) _) ?_ h.look.look
    refine (bind_ok (asks false) _).trans ?_
    rcases v.look.look.isStopRequested stop with _ | _ <;> rfl
  · rcases hseen : v.look.look.isStopRequested stop with _ | _ <;> rw [hseen] at asks
    · have late (st : SchedulerState) : Steady (Beside stop run) (s.queueLate st) := by
        refine Steady.get_bind (fun w u h => ?_) fun w => ?_ <;> rw [hs.late]
        exact Steady.pure st
      have runs : Steady (Beside stop run) (s.runJob job ⟨report, rest, lateQueued⟩) :=
        Harmony.runJob (fun _ _ => trivial) (Beside.harmony ha) hs.cancel late
          (fun request _ => Beside.digests ha request) (hq job (List.mem_cons_self ..)) _
      obtain ⟨r, u', v', hu, hv, beside⟩ := runs.exists_apply h.look.look
      exact .same ((bind_ok (goes true) _).trans hu) ((bind_ok (asks true) _).trans hv) beside
    · exact .cut (bind_ok (asks true) _) rfl h.asks.look.look

/-- The jobs of a queue keep their tokens behind that of the run. -/
lemma TurnLog.tokens {p : Progress} {st' : SchedulerState} {log : List Event}
    (h : s.TurnLog st (.ok (p, st')) log) (hs : s.Serves stop run)
    (hq : ∀ job ∈ st.queued, run <+: job.token) : ∀ job ∈ st'.queued, run <+: job.token := by
  intro job hj
  rcases h.mem_queued hj with hj | late | ⟨parent, hp, contexts, hc⟩
  · exact hq job hj
  · cases hs.late.symm.trans late
  · obtain ⟨-, i, token⟩ := ForkingJob.of_mem_childrenOf hc
    exact token ▸ (hq parent hp).trans (List.prefix_append _ [i])

end Scheduler

/-- **A queue in both runs**, by induction on the turns of the stopped one. -/
theorem WorksOff.beside {stop run : Token} (ha : Token.Apart stop run) {s : Scheduler}
    (hs : s.Serves stop run) {st : SchedulerState} {u v : World}
    {full cut : Except Halt SchedulerReport × World} (hv : WorksOff s st v cut)
    (hu : WorksOff s st u full) (hq : ∀ job ∈ st.queued, run <+: job.token)
    (h : Beside stop run u v) :
    CutShort stop run SchedulerReport.Cuts full cut := by
  -- where only the stopped run ends, the other one goes on from the state that they had both
  have ends {st : SchedulerState} {u v v' : World} (h : Beside stop run u v)
      (hu : WorksOff s st u full) (ht : v'.trail = v.trail) (hv : v'.Asks stop run) :
      CutShort stop run SchedulerReport.Cuts full (.ok st.cancelled.report, v') := by
    obtain ⟨⟨t, grown, -⟩, begins⟩ := hu.grows
    refine .cut (fun report hr => ?_) ⟨t, by rw [ht, ← h.trail, grown]⟩ hv
    exact ⟨(begins report hr).outputs, (begins report hr).failures⟩
  induction hv generalizing u with
  | @halts st st' v v' hv =>
      cases Scheduler.turn_beside ha hs hq h with
      | same hu' hv' beside =>
          cases hv.symm.trans hv'
          cases hu.unique (.halts hu')
          exact .same beside
      | cut hv' ht asks =>
          cases hv.symm.trans hv'
          exact ends h hu ht asks
  | @breaks st v v' e hv =>
      cases Scheduler.turn_beside ha hs hq h with
      | same hu' hv' beside =>
          cases hv.symm.trans hv'
          cases hu.unique (.breaks hu')
          exact .same beside
      | cut hv' ht asks => cases hv.symm.trans hv'
  | @turns st st' v v' cut hv _ ih =>
      cases Scheduler.turn_beside ha hs hq h with
      | same hu' hv' beside =>
          cases hv.symm.trans hv'
          cases hu with
          | halts hu => cases hu.symm.trans hu'
          | breaks hu => cases hu.symm.trans hu'
          | turns hu later =>
              cases hu.symm.trans hu'
              obtain ⟨t, -, log⟩ := s.turn_leaves st v
              rw [hv] at log
              exact ih later (log.tokens hs hq) beside
      | cut hv' ht asks => cases hv.symm.trans hv'

end Connector
