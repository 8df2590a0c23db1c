import Connector.Proofs.Loop.FieldOrder
import Connector.Proofs.Loop.Lockstep
import Connector.Proofs.Loop.Pages
import Connector.Proofs.Loop.Stop
import Connector.Proofs.Scheduler.Blocks

/-!
# The two forms of a request

A request is a job of its own, or a stage of another job.  Both run the same loop, under tokens of
their own: the job looks for a stop once more, before it starts, tells of its start and its end,
and reports the last context instead of all of them.  Each form is loaded for itself, and where the
two loads go through the fields of a map in different orders, two failing fields of that map may
give them different errors; nothing else depends on the orders.

* `Outlook` — what a world has to say about the stops of a token, now and later.
* `Twin` — worlds that are the same but for tokens, states and earlier events.
* `Moments` — when a stop is asked for.
* `FormsAgree` — a run as a job and a run as a stage that do the same;
  `RequestJob.agrees_with_stage` — every request has them.
* **`Definition.forms_agree`** — one definition in both forms, loaded in any two orders.
-/

namespace Connector

open Work

/-! ## Stops to come -/

/-- **What a world has to say about the stops of a token.** -/
structure Outlook where
  stopped : Bool
  /-- Whether each of the coming looks hears of a stop. -/
  looks : List Bool
  arrivals : Nat
  /-- The request that the alarm is set to, and whether it means the token. -/
  alarm : Option (Nat × Bool)
  rung : Bool

namespace Outlook

/-- The next look. -/
def look (o : Outlook) : Outlook :=
  { o with stopped := o.stopped || o.looks.headD false, looks := o.looks.tail }

/-- A request comes in. -/
def arrive (o : Outlook) : Outlook :=
  match o.alarm, o.rung with
  | some (n, meant), false =>
    if n = o.arrivals + 1 then
      { o with arrivals := o.arrivals + 1, rung := true, stopped := o.stopped || meant }
    else { o with arrivals := o.arrivals + 1 }
  | _, _ => { o with arrivals := o.arrivals + 1 }

end Outlook

/-- A stop is asked for among the earlier ones or the later ones. -/
lemma stopRequested_append (stops more : List Token) (t : Token) :
    stopRequested (stops ++ more) t = (stopRequested stops t || stopRequested more t) :=
  List.any_append

namespace World

/-- The outlook of a token. -/
def outlook (t : Token) (w : World) : Outlook where
  stopped := w.isStopRequested t
  looks := w.interrupts.map fun stops => stopRequested stops t
  arrivals := w.arrivals
  alarm := w.alarm.map fun a => (a.arrival, stopRequested a.stops t)
  rung := w.rung.isSome

/-- To look takes one look off what is to come. -/
lemma outlook_look (t : Token) (w : World) : w.look.outlook t = (w.outlook t).look := by
  rcases hi : w.interrupts with _ | ⟨next, later⟩
  · simp [outlook, look, Outlook.look, isStopRequested, hi]
  · simp [outlook, look, Outlook.look, isStopRequested, hi, stopRequested_append]

/-- Where nothing is passed on, an arrival has a say only through the alarm. -/
lemma outlook_exchange {w : World} (hr : w.relay = none) (t : Token) (r : Http.Request) :
    (w.exchange r).outlook t = (w.outlook t).arrive := by
  rcases ha : w.alarm with _ | a
  · simp [outlook, Outlook.arrive, exchange, arrive, count, ring, passOn, isStopRequested, ha, hr]
  · rcases hg : w.rung with _ | states
    · by_cases hn : a.arrival = w.arrivals + 1
      · simp [outlook, Outlook.arrive, exchange, arrive, count, ring, passOn, isStopRequested, ha, hg, hr,
          hn, stopRequested_append]
      · simp [outlook, Outlook.arrive, exchange, arrive, count, ring, passOn, isStopRequested, ha, hg, hr,
          hn]
    · simp [outlook, Outlook.arrive, exchange, arrive, count, ring, passOn, isStopRequested, ha, hg, hr]

/-- Where no stop is relayed, none is after an exchange. -/
lemma relay_exchange {w : World} (hr : w.relay = none) (r : Http.Request) :
    (w.exchange r).relay = none := by
  rcases ha : w.alarm with _ | a
  · simp [exchange, arrive, count, ring, passOn, ha, hr]
  · rcases hg : w.rung with _ | states
    · by_cases hn : a.arrival = w.arrivals + 1 <;>
        simp [exchange, arrive, count, ring, passOn, ha, hg, hr, hn]
    · simp [exchange, arrive, count, ring, passOn, ha, hg, hr]

/-- A world without stops and without what it has told and shown. -/
def bare (w : World) : World := { w.quiet with events := [], states := [] }

/-- An exchange does not depend on stops, except for those that come in with it. -/
lemma bare_exchange (r : Http.Request) (w : World) : (w.exchange r).bare = w.bare.exchange r := by
  rw [bare, quiet_exchange]
  rfl

lemma events_exchange (r : Http.Request) (w : World) : (w.exchange r).events = w.events := by
  have trail := congrArg Trail.events (World.trail_exchange r w)
  simpa [World.trail] using trail

end World

/-! ## Worlds in which a request does the same -/

/-- **Twins**: worlds that are the same but for tokens, states and the events before. -/
structure Twin (t t' : Token) (a b : List Event) (u v : World) : Prop where
  bare : u.bare = v.bare
  outlook : u.outlook t = v.outlook t'
  relay : u.relay = none ∧ v.relay = none
  events : ∃ log, u.events = a ++ log ∧ v.events = b ++ log

namespace Twin

variable {t t' : Token} {a b : List Event} {u v : World}

lemma functions (h : Twin t t' a b u v) : u.functions = v.functions :=
  (congrArg World.functions h.bare :)

lemma network (h : Twin t t' a b u v) : u.network = v.network :=
  (congrArg World.network h.bare :)

lemma answers (h : Twin t t' a b u v) : u.answers = v.answers :=
  (congrArg World.answers h.bare :)

lemma store (h : Twin t t' a b u v) : u.store = v.store :=
  (congrArg World.store h.bare :)

lemma outages (h : Twin t t' a b u v) : u.outages = v.outages :=
  (congrArg World.outages h.bare :)

lemma sent (h : Twin t t' a b u v) : u.sent = v.sent :=
  (congrArg World.sent h.bare :)

lemma printed (h : Twin t t' a b u v) : u.printed = v.printed :=
  (congrArg World.printed h.bare :)

/-- Twins agree in all that a loop uses, and each step of a loop leaves twins. -/
lemma congruence (t t' : Token) (a b : List Event) : Congruence (Twin t t' a b) Eq Eq t t' where
  functions h := h.functions
  store h := h.store
  outages h := h.outages
  tell := by
    rintro u v e _ rfl ⟨hb, ho, hr, log, hu, hv⟩
    have left : (u.tell e).events = a ++ (log ++ [e]) := by
      rw [← List.append_assoc, ← hu]; rfl
    have right : (v.tell e).events = b ++ (log ++ [e]) := by
      rw [← List.append_assoc, ← hv]; rfl
    exact ⟨hb, ho, hr, log ++ [e], left, right⟩
  print := by
    rintro u v s _ rfl ⟨hb, ho, hr, he⟩
    exact ⟨(congrArg (World.print s) hb :), ho, hr, he⟩
  display := by
    rintro u v s ⟨hb, ho, hr, he⟩
    exact ⟨hb, ho, hr, he⟩
  keep := by
    rintro u v s ⟨hb, ho, hr, he⟩
    exact ⟨(congrArg (World.keep s) hb :), ho, hr, he⟩
  sameEvent _ := rfl
  sameText _ := rfl

/-- Twins look alike: each hears of its own token what the other hears of its own. -/
lemma look (h : Twin t t' a b u v) : Twin t t' a b u.look v.look where
  bare := h.bare
  outlook := by rw [World.outlook_look, World.outlook_look, h.outlook]
  relay := h.relay
  events := h.events

/-- Twins exchange alike, and a stop that comes in comes in for both. -/
lemma exchange (h : Twin t t' a b u v) (r : Http.Request) :
    Twin t t' a b (u.exchange r) (v.exchange r) where
  bare := by rw [World.bare_exchange, World.bare_exchange, h.bare]
  outlook := by
    rw [World.outlook_exchange h.relay.1, World.outlook_exchange h.relay.2, h.outlook]
  relay := ⟨World.relay_exchange h.relay.1 r, World.relay_exchange h.relay.2 r⟩
  events := by rw [World.events_exchange, World.events_exchange]; exact h.events

/-- Loops in twin worlds keep step. -/
lemma lockstep (t t' : Token) (a b : List Event) : Lockstep (Twin t t' a b) Eq Eq t t' where
  toCongruence := congruence t t' a b
  looks := by
    intro u v h
    have seen : u.look.isStopRequested t = v.look.isStopRequested t' :=
      (congrArg Outlook.stopped h.look.outlook :)
    rw [checkStop_apply, checkStop_apply]
    exact ⟨.ok seen, h.look⟩
  sends request answer := by
    refine Tandem.bind_get fun u v h => ?_
    rw [← h.network]
    rcases u.network with _ | _
    · exact Tandem.bind (Tandem.modify fun u v h => h.exchange request)
        (fun _ _ _ => Tandem.pure rfl) u v h
    · rcases request.refusal? with _ | e
      · exact Tandem.pure rfl u v h
      · exact Tandem.pure rfl u v h

end Twin

/-- **A loop does the same in twin worlds.** -/
theorem Loop.run_twin (l : Loop) (t : Token) (a b : List Event) (context : Context) :
    Tandem (Twin l.token t a b) Eq (l.run context) ((l.withToken t).run context) := by
  intro u v h
  have resumes : (l.withToken t).resumed context v = l.resumed context u :=
    resumed_congr (l := l) h.store.symm h.outages.symm
  rcases hc : l.resumed context u with e | c
  · rw [run_of_resumed_error hc, run_of_resumed_error (resumes.trans hc)]
    exact ⟨.error _, h⟩
  · rw [run_of_resumed hc, run_of_resumed (resumes.trans hc), finish, finish, ← h.answers]
    have hR := Twin.lockstep l.token t a b
    have rounds := rounds_lockstep hR u.answers (.refl hR.toCongruence l.request) rfl 0 0
      (fun _ _ => rfl) (c := c)
    exact (rounds.mono fun _ _ hr => hr.eq) u v h

/-! ## One request in both forms -/

/-- **When a stop is asked for.** -/
structure Moments where
  /-- Whether it is asked for before each of the looks for a stop. -/
  looks : List Bool
  /-- The number of the request that is under way when it is asked for. -/
  during : Option Nat

/-- The moments of a job, which looks for a stop once more than its loop: after the start. -/
def Moments.started (m : Moments) : Moments := { m with looks := false :: m.looks }

/-- A world in which a stop of a token is asked for at the given moments, and no other stop. -/
def World.stopAt (t : Token) (m : Moments) (w : World) : World :=
  { w with
    stops := []
    interrupts := m.looks.map fun asked => if asked then [t] else []
    alarm := m.during.map fun n => ⟨n, [t]⟩
    rung := none
    relay := none }

/-- **How a job and a stage end that ran the same loop**, with errors that `E` relates.  The loop has
told of `log`, and the job tells of its end by `ending`. -/
inductive EndAlike (E : RunError → RunError → Prop) (name : String) (log : List Event) :
    Except Halt JobReport → Except Halt (List Context) → List Event → Prop where
  | completed {report : JobReport} {pages : List Context}
      (hp : log.filterMap Event.page? = pages.map .obj) (hn : report.iterations = pages.length)
      (hl : report.outcome = .stopConditionMet → pages.getLast? = some report.context) :
      EndAlike E name log (.ok report) (.ok pages)
        [.jobCompleted name report.outcome.name report.iterations]
  | failed {e e' : RunError} (h : E e e') :
      EndAlike E name log (.error (.failed e)) (.error (.failed e')) [.jobFailed name e.message]
  | hung : EndAlike E name log (.error .hung) (.error .hung) []

/-- **The run of a job and the run of a stage that do the same**, but for what the job tells of
itself: its start and its end.  They fail together, with errors that `E` relates. -/
structure FormsAgree (E : RunError → RunError → Prop) (name : String) (w : World)
    (job : Except Halt JobReport × World) (stage : Except Halt (List Context) × World) :
    Prop where
  sent : job.2.sent = stage.2.sent
  store : job.2.store = stage.2.store
  printed : job.2.printed = stage.2.printed
  told : ∃ log ending, stage.2.events = w.events ++ log ∧
    job.2.events = w.events ++ [.jobStarted name] ++ log ++ ending ∧ Inside log ∧
      EndAlike E name log job.1 stage.1 ending

/-- A stage that is the same but for its error agrees as well. -/
lemma FormsAgree.of_sameBut {E : RunError → RunError → Prop} {name : String} {w : World}
    {job : Except Halt JobReport × World} {stage stage' : Except Halt (List Context) × World}
    (h : FormsAgree Eq name w job stage) (same : ∀ e, E e e)
    (ends : EndsBut E stage.1 stage'.1) (worlds : stage.2 = stage'.2) :
    FormsAgree E name w job stage' := by
  obtain ⟨sent, store, printed, log, ending, told, all, inside, alike⟩ := h
  rw [worlds] at sent store printed told
  refine ⟨sent, store, printed, log, ending, told, all, inside, ?_⟩
  revert ends alike
  generalize job.1 = x
  generalize stage.1 = y
  generalize stage'.1 = y'
  intro ends alike
  cases alike with
  | completed hp hn hl =>
      cases ends
      exact .completed hp hn hl
  | failed h =>
      subst h
      cases ends with
      | same => exact .failed (same _)
      | failed h => exact .failed h
  | hung =>
      cases ends
      exact .hung

/-- A token is stopped if it was asked to be. -/
lemma stopRequested_asked (t : Token) (asked : Bool) :
    stopRequested (if asked then [t] else []) t = asked := by
  cases asked <;> simp [stopRequested]

/-- What a token is to hear of in a world where its stops come at given moments. -/
lemma World.outlook_stopAt (t : Token) (m : Moments) (w : World) :
    (w.stopAt t m).outlook t =
      ⟨false, m.looks, w.arrivals, m.during.map fun n => (n, true), false⟩ := by
  have none : stopRequested [] t = false := rfl
  have self : stopRequested [t] t = true := by simp [stopRequested]
  simp [outlook, stopAt, isStopRequested, stopRequested_asked, Function.comp_def, none, self]

/-- A job after its start and a stage before it have twin worlds. -/
lemma twin_begun (j : RequestJob) (t : Token) (m : Moments) (w : World) :
    Twin j.token t (w.events ++ [.jobStarted j.name]) w.events
      (j.begun (w.stopAt j.token m.started)) (w.stopAt t m) where
  bare := rfl
  outlook := by
    rw [RequestJob.begun, World.outlook_look]
    show ((w.stopAt j.token m.started).outlook j.token).look = _
    rw [World.outlook_stopAt, World.outlook_stopAt]
    rfl
  relay := ⟨rfl, rfl⟩
  events := ⟨[], (List.append_nil _).symm, (List.append_nil _).symm⟩

/-- What a stage makes of the end of its loop. -/
def Stage.close : Except Halt LoopResult × World → Except Halt (List Context) × World
  | (.ok r, w) => (.ok r.pages, w)
  | (.error h, w) => (.error h, w)

/-- A stage that sends a request is its loop, with the pages as its contexts. -/
lemma Stage.perform_http (request : Request) (t : Token) (context : Context) (w : World) :
    Stage.perform (.http request) t context w =
      Stage.close (Loop.run ⟨request.name, request, t⟩ context w) := by
  rw [perform, bind_apply]
  rcases Loop.run ⟨request.name, request, t⟩ context w with ⟨h | r, v⟩ <;> rfl

/-- Loops that end alike in twin worlds make a job and a stage that agree. -/
lemma FormsAgree.of_loops (j : RequestJob) {w u v : World} {x : Except Halt LoopResult} {t : Trail}
    (hb : u.bare = v.bare) (hu : u.events = w.events ++ [.jobStarted j.name] ++ t.events)
    (hv : v.events = w.events ++ t.events) (hi : Inside t.events) (told : Loop.Told x t) :
    FormsAgree Eq j.name w (j.close (x, u)) (Stage.close (x, v)) := by
  have sent : u.sent = v.sent := (congrArg World.sent hb :)
  have store : u.store = v.store := (congrArg World.store hb :)
  have printed : u.printed = v.printed := (congrArg World.printed hb :)
  rcases x with (e | _) | r
  · refine ⟨sent, store, printed, t.events, [.jobFailed j.name e.message], hv, ?_, hi, .failed rfl⟩
    rw [← hu]
    rfl
  · refine ⟨sent, store, printed, t.events, [], hv, ?_, hi, .hung⟩
    rw [← hu, List.append_nil]
    rfl
  · refine ⟨sent, store, printed, t.events,
      [.jobCompleted j.name r.outcome.name r.iterations], hv, ?_, hi, .completed told.1 rfl told.2⟩
    rw [← hu]
    rfl

/-- **One request in both forms**, whenever a stop is asked for after the start. -/
theorem RequestJob.agrees_with_stage (j : RequestJob) (t : Token) (m : Moments) (w : World) :
    FormsAgree Eq j.name w (j.run (w.stopAt j.token m.started))
      (Stage.perform (.http j.request) t j.context (w.stopAt t m)) := by
  have running : (j.begun (w.stopAt j.token m.started)).isStopRequested j.token = false := rfl
  obtain ⟨trail, ht, told⟩ := Loop.run_told (j.toLoop.withToken t) j.context (w.stopAt t m)
  obtain ⟨inner, hi, inside⟩ := Stage.perform_inside (.http j.request) t j.context (w.stopAt t m)
  have stage := Stage.perform_http j.request t j.context (w.stopAt t m)
  obtain ⟨results, worlds⟩ := j.toLoop.run_twin t _ _ j.context _ _ (twin_begun j t m w)
  rw [run_of_running running, stage]
  rw [stage] at hi
  rcases hx : j.toLoop.run j.context (j.begun (w.stopAt j.token m.started)) with ⟨x, u⟩
  rcases hy : (j.toLoop.withToken t).run j.context (w.stopAt t m) with ⟨y, v⟩
  have both : Loop.run ⟨j.request.name, j.request, t⟩ j.context (w.stopAt t m) = (y, v) := hy
  rw [both] at hi ⊢
  rw [hx, hy] at results worlds
  rw [hy] at ht told
  obtain rfl : x = y := by
    cases results with
    | ok h => rw [h]
    | error h => rfl
  have closed : (Stage.close (x, v)).2 = v := by rcases x with h | r <;> rfl
  rw [closed] at hi
  -- the loop and the stage are told of by the same events
  have events : v.events = w.events ++ trail.events := congrArg Trail.events ht
  have events' : v.events = w.events ++ inner.events := congrArg Trail.events hi
  have same : inner.events = trail.events := List.append_cancel_left (events'.symm.trans events)
  obtain ⟨log, hu, hv⟩ := worlds.events
  obtain rfl : log = trail.events := List.append_cancel_left (hv.symm.trans events)
  exact .of_loops j worlds.bare hu events (same ▸ inside) told

/-- Stages of two requests whose fields are in other orders. -/
lemma Stage.perform_sameBut {request request' : Request} (h : request.Rearranged request')
    (t : Token) (context : Context) : SameBut (request.options.SameFault request'.options)
    (Stage.perform (.http request) t context) (Stage.perform (.http request') t context) := by
  have loops := Loop.run_sameBut ⟨request.name, request, t⟩ h.options context
  have same : Loop.withOptions ⟨request.name, request, t⟩ request'.options =
      ⟨request'.name, request', t⟩ := by
    rw [Loop.withOptions, ← h.same, h.same]
  rw [same] at loops
  exact loops.bind fun result => SameBut.refl _

/-- A request that is loaded has the name that it is loaded under. -/
lemma Definition.Loop.name_of_load {l : Definition.Loop} {order : Definition.FieldOrder}
    {name : String} {request : Connector.Request} (h : l.load name order = .ok request) :
    request.name = name := by
  obtain ⟨options, -, h⟩ := exists_of_bind_eq_ok h
  obtain ⟨before, -, h⟩ := exists_of_bind_eq_ok h
  obtain ⟨after, -, h⟩ := exists_of_bind_eq_ok h
  obtain ⟨repetition, -, h⟩ := exists_of_bind_eq_ok h
  obtain ⟨checkpoint, -, h⟩ := exists_of_bind_eq_ok h
  cases h
  rfl

end Connector
