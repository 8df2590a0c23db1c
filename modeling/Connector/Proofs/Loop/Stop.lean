import Connector.Proofs.Loop.Tandem

/-!
# What a stop does to a request job

A stop only truncates.  The run that is stopped and the run that is not go on in tandem, up to the
first look for a stop after the stop was asked for; there the one ends and the other goes on.

* `World.stopAfter` — ask for a stop before the run, or while a request is under way.
* `Due` — the two worlds as long as the stop is still to be seen.
* `Loop.Truncates`, `Loop.finish_truncates` — all rounds, with the stop due after a number of
  requests.
* **`RequestJob.run_stopAfter`** — the two runs of a job.
-/

namespace Connector

open Work

namespace World

/-- A world without its stops, those asked for and those to come. -/
def quiet (w : World) : World :=
  { w with stops := [], interrupts := [], alarm := none, rung := none, relay := none }

/-- **Ask for a stop of a token after `n` requests**: before the run for none, and else while the
last of them is under way. -/
def stopAfter (t : Token) : Nat → World → World
  | 0, w => w.requestStops [t]
  | n + 1, w => { w with alarm := some ⟨w.arrivals + (n + 1), [t]⟩, rung := none }

/-- A stop of a token is seen after `n` more requests, and no sooner. -/
def StopDue (t : Token) (n : Nat) (w : World) : Prop :=
  w.interrupts = [] ∧ w.relay = none ∧
    match n with
    | 0 => w.isStopRequested t = true
    | n + 1 => w.isStopRequested t = false ∧
        w.alarm = some ⟨w.arrivals + (n + 1), [t]⟩ ∧ w.rung = none

@[simp] lemma quiet_passOn (w : World) : w.passOn.quiet = w.quiet := by
  rw [passOn]
  split
  · split <;> rfl
  · rfl

@[simp] lemma quiet_ring (w : World) : w.ring.quiet = w.quiet := by
  rw [ring]
  split
  · split <;> rfl
  · rfl

/-- But for stops, an exchange does not depend on them. -/
lemma quiet_exchange (r : Http.Request) (w : World) :
    (w.exchange r).quiet = w.quiet.exchange r := by
  show { (w.arrive r).quiet with answers := w.answers.drop 1 } = _
  rw [arrive, quiet_passOn, quiet_ring]
  rfl

lemma isStopRequested_append (w : World) (t : Token) :
    ({ w with stops := w.stops ++ [t] } : World).isStopRequested t = true := by
  simp [isStopRequested, stopRequested]

/-- The alarm rings with the request that it is set to. -/
lemma StopDue.exchange {t : Token} {n : Nat} {w : World} (h : w.StopDue t (n + 1))
    (r : Http.Request) : (w.exchange r).StopDue t n := by
  obtain ⟨hi, hr, hs, ha, hg⟩ := h
  rw [World.exchange]
  cases n with
  | zero =>
      have rings : w.arrive r =
          { w.count r with rung := some w.states, stops := w.stops ++ [t] } := by
        simp [arrive, count, ring, passOn, ha, hg, hr]
      rw [rings]
      exact ⟨hi, hr, isStopRequested_append _ _⟩
  | succ n =>
      have waits : w.arrive r = w.count r := by simp [arrive, count, ring, passOn, ha, hg, hr]
      have later : w.arrivals + (n + 1 + 1) = w.arrivals + 1 + (n + 1) := by omega
      rw [waits]
      exact ⟨hi, hr, hs, later ▸ ha, hg⟩

end World

/-! ## Two worlds until the stop is seen -/

/-- **The worlds of two runs while a stop is due** in the second one after `n` more requests: they
differ in nothing but the stop. -/
structure Due (t : Token) (n : Nat) (u v : World) : Prop where
  quiet : u.quiet = v.quiet
  calm : u.Undisturbed t
  scripted : u.network = .scripted
  stop : v.StopDue t n

namespace Due

variable {t : Token} {n : Nat} {u v : World}

/-- Worlds that differ in a stop to come are used alike until it comes. -/
lemma congruence (t : Token) (n : Nat) : Congruence (Due t n) Eq Eq t t where
  functions h := (congrArg World.functions h.quiet :)
  store h := (congrArg World.store h.quiet :)
  outages h := (congrArg World.outages h.quiet :)
  tell := by
    rintro u v e _ rfl ⟨hq, ⟨hs, hi, ha, hr⟩, hn, hv⟩
    exact ⟨congrArg (World.tell e) hq, ⟨hs, hi, ha, hr⟩, hn, hv⟩
  print := by
    rintro u v s _ rfl ⟨hq, ⟨hs, hi, ha, hr⟩, hn, hv⟩
    exact ⟨congrArg (World.print s) hq, ⟨hs, hi, ha, hr⟩, hn, hv⟩
  display := by
    rintro u v s ⟨hq, ⟨hs, hi, ha, hr⟩, hn, hv⟩
    exact ⟨congrArg (World.display t s) hq, ⟨hs, hi, ha, hr⟩, hn, hv⟩
  keep := by
    rintro u v s ⟨hq, ⟨hs, hi, ha, hr⟩, hn, hv⟩
    exact ⟨congrArg (World.keep s) hq, ⟨hs, hi, ha, hr⟩, hn, hv⟩
  sameEvent _ := rfl
  sameText _ := rfl

lemma look (h : Due t n u v) : Due t n u.look v.look := by
  rw [World.look_of_no_interrupts h.calm.interrupts, World.look_of_no_interrupts h.stop.1]
  exact h

/-- In the world without stops a job goes on. -/
lemma running (h : Due t n u v) : u.look.isStopRequested t = false := h.look.calm.notStopped

/-- In the other one it is stopped once the stop is due. -/
lemma stopped (h : Due t 0 u v) : v.look.isStopRequested t = true := h.look.stop.2.2

lemma stillRunning (h : Due t (n + 1) u v) : v.look.isStopRequested t = false := h.look.stop.2.2.1

lemma scripted_right (h : Due t n u v) : v.network = .scripted :=
  (congrArg World.network h.quiet).symm.trans h.scripted

/-- An exchange brings the stop nearer by one. -/
lemma exchange (h : Due t (n + 1) u v) (r : Http.Request) :
    Due t n (u.exchange r) (v.exchange r) := by
  refine ⟨?_, h.calm.exchange r, ?_, h.stop.exchange r⟩
  · rw [World.quiet_exchange, World.quiet_exchange, h.quiet]
  · have network : (u.exchange r).quiet.network = u.quiet.network := by
      rw [World.quiet_exchange]; rfl
    exact network.trans h.scripted

end Due

namespace Loop

variable {l : Loop} {n : Nat}

/-- **What a stop makes of a loop**: either the loop ends before the stop is seen and nothing is
different, or it ends where the stop is seen, after `n` more whole rounds and with a request made
ready that only the loop without the stop sends. -/
inductive Truncates (l : Loop) (n : Nat) (p : Point) : Except Halt LoopResult × World → Prop where
  | same {s : Except Halt LoopResult × World} (hr : s.1 = (l.finish p).1)
      (hq : (l.finish p).2.quiet = s.2.quiet)
      (hs : (l.finish p).2.sent.length ≤ p.world.sent.length + n) : Truncates l n p s
  | cut {q : Point} {x : Http.Request × Context} {u v : World} {pages : List Context}
      (hq : l.Reaches p q) (hi : q.iteration = p.iteration + n)
      (hr : l.ready q.context q.world = (.ok x, u)) (hv : u.quiet = v.quiet)
      (hp : pages.length = n)
      (hs : ∃ t, (l.finish q).2.trail = u.trail ++ { sent := [x.1] } ++ t) :
      Truncates l n p (.ok ⟨.cancelled, x.2, pages⟩, v)

/-- Making a request ready sends nothing, tells of no response and stores nothing. -/
lemma ready_keeps {context : Context} {w u : World}
    {r : Except Halt (Http.Request × Context)} (h : l.ready context w = (r, u)) :
    u.sent = w.sent ∧ u.pages = w.pages ∧ w.events <+: u.events ∧ u.store = w.store := by
  have left : (l.ready context).Leaves fun _ t =>
      t.sent = [] ∧ t.events.filterMap Event.page? = [] := by
    refine ready_leaves (fun _ skips hs => ⟨rfl, ?_⟩) fun _ _ _ => ⟨rfl, rfl⟩
    exact List.sublist_nil.1 (hs.filterMap Event.page?)
  have stored := l.ready_store context w
  obtain ⟨t, ht, hs, hp⟩ := left w
  rw [h] at ht stored
  have sent : u.sent = w.sent ++ t.sent := congrArg Trail.sent ht
  have events : u.events = w.events ++ t.events := congrArg Trail.events ht
  refine ⟨by rw [sent, hs, List.append_nil], ?_, ⟨t.events, events.symm⟩, stored⟩
  simp only [World.pages, events, List.filterMap_append, hp, List.append_nil]

/-- What comes after an answer sends nothing. -/
lemma receive_trail (l : Loop) (i : Nat) (answer : Answer) (context : Context) (w : World) :
    ∃ t, (l.receive i answer context w).2.trail = w.trail ++ t ∧ t.sent = [] := by
  have left : (l.receive i answer context).Leaves fun _ t => t.sent = [] :=
    receive_leaves (fun _ _ _ => rfl) (fun _ _ _ _ _ _ _ => rfl) (fun _ _ _ _ _ _ => rfl)
      (fun _ _ _ _ _ => rfl) rfl
  exact left w

/-- **One round of both runs**: it ends alike in both, or the stop is seen in the second one when
its request is ready. -/
inductive RoundDue (l : Loop) (i : Nat) (answer : Option Answer) (c : Context) (n : Nat)
    (u v : World) : Prop where
  | halted {h : Halt} {u' v' : World} (hu : l.round i answer c u = (.error h, u'))
      (hv : l.round i answer c v = (.error h, v')) (hq : u'.quiet = v'.quiet)
      (hs : u'.sent.length ≤ u.sent.length + n)
  | ended {outcome : LoopOutcome} {c' : Context} {u' v' : World}
      (hu : l.round i answer c u = (.ok (.ended outcome c'), u'))
      (hv : l.round i answer c v = (.ok (.ended outcome c'), v')) (hq : u'.quiet = v'.quiet)
      (hs : u'.sent.length ≤ u.sent.length + n)
  | page {m : Nat} {c' : Context} {last : Bool} {u' v' : World} (hn : n = m + 1)
      (hu : l.round i answer c u = (.ok (.page c' last), u'))
      (hv : l.round i answer c v = (.ok (.page c' last), v')) (hd : Due l.token m u' v')
      (hs : u'.sent.length = u.sent.length + 1)
  | cut {x : Http.Request × Context} {u' v' : World} (hn : n = 0)
      (hr : l.ready c u = (.ok x, u')) (hq : u'.quiet = v'.quiet)
      (hu : ∃ t, (l.round i answer c u).2.trail = u'.trail ++ { sent := [x.1] } ++ t)
      (hv : l.round i answer c v = (.ok (.ended .cancelled x.2), v'))

variable {i : Nat} {answer : Option Answer} {c : Context} {u v u' v' : World}

/-- The stop is seen when the request is ready, and only the first run sends it. -/
lemma round_due_now {x : Http.Request × Context} (hu : l.ready c u = (.ok x, u'))
    (hv : l.ready c v = (.ok x, v')) (hd : Due l.token 0 u' v') : l.RoundDue i answer c 0 u v := by
  obtain ⟨t, ht, -⟩ := receive_trail l i (answer.getD lastAnswer) x.2 (u'.look.exchange x.1)
  refine .cut rfl hu hd.look.quiet ⟨t, ?_⟩ (round_of_stopped hv hd.stopped)
  rw [round_of_running hu hd.running hd.scripted, ht, World.trail_exchange, World.trail_look]

/-- Both runs send the request, and what is asked of the first response is asked of the other. -/
lemma round_due_later {m : Nat} {x : Http.Request × Context} (hu : l.ready c u = (.ok x, u'))
    (hv : l.ready c v = (.ok x, v')) (hs : u'.sent = u.sent) (hd : Due l.token (m + 1) u' v') :
    l.RoundDue i answer c (m + 1) u v := by
  have goes : l.round i answer c u =
      l.receive i (answer.getD lastAnswer) x.2 (u'.look.exchange x.1) :=
    round_of_running hu hd.running hd.scripted
  have goes' : l.round i answer c v =
      l.receive i (answer.getD lastAnswer) x.2 (v'.look.exchange x.1) :=
    round_of_running hv hd.stillRunning hd.scripted_right
  have received : Tandem (Due l.token m) (Round.Alike Eq)
      (l.receive i (answer.getD lastAnswer) x.2) (l.receive i (answer.getD lastAnswer) x.2) :=
    receive_tandem (Due.congruence l.token m) (fun _ => rfl) rfl (fun _ => rfl) _
  obtain ⟨hb, hd'⟩ := received _ _ (hd.look.exchange x.1)
  obtain ⟨t, ht, hn⟩ := receive_trail l i (answer.getD lastAnswer) x.2 (u'.look.exchange x.1)
  rw [← goes, World.trail_exchange, World.trail_look] at ht
  rw [← goes, ← goes'] at hb hd'
  rcases hru : l.round i answer c u with ⟨r, u''⟩
  rcases hrv : l.round i answer c v with ⟨r', v''⟩
  rw [hru] at ht
  rw [hru, hrv] at hb hd'
  have sent : u''.sent.length = u.sent.length + 1 := by
    have log : u''.sent = u'.sent ++ [x.1] ++ t.sent := congrArg Trail.sent ht
    rw [log, hn, hs, List.append_nil, List.length_append, List.length_singleton]
  have all : u''.sent.length ≤ u.sent.length + (m + 1) := by omega
  cases hb with
  | error e => exact .halted hru hrv hd'.quiet all
  | ok hrs =>
      cases hrs with
      | ended _ hc => subst hc; exact .ended hru hrv hd'.quiet all
      | page => exact .page rfl hru hrv hd' sent

/-- A round before the stop, or the one that sees it. -/
lemma round_due (h : Due l.token n u v) : l.RoundDue i answer c n u v := by
  have tandem : Tandem (Due l.token n) Eq (l.ready c) (l.ready c) :=
    ready_tandem_same (Due.congruence l.token n) c
  obtain ⟨ha, hd⟩ := tandem u v h
  rcases hu : l.ready c u with ⟨r, u'⟩
  rcases hv : l.ready c v with ⟨r', v'⟩
  rw [hu, hv] at ha hd
  obtain ⟨sent, -⟩ := ready_keeps hu
  cases ha with
  | error e =>
      have all : u'.sent.length ≤ u.sent.length + n := by rw [sent]; omega
      exact .halted (round_of_ready_error hu) (round_of_ready_error hv) hd.quiet all
  | ok hxy =>
      subst hxy
      cases n with
      | zero => exact round_due_now hu hv hd
      | succ m => exact round_due_later hu hv sent hd

/-! ## All rounds -/

/-- A round that goes on comes before what the stop makes of the rest. -/
lemma Truncates.cons {p q : Point} {r : Except Halt LoopResult} (hs : l.Step p q)
    (hc : c = q.context) (h : l.Truncates n q (r, v)) :
    l.Truncates (n + 1) p (r.map (·.withPage c), v) := by
  subst hc
  have one : q.world.sent.length = p.world.sent.length + 1 := hs.length_sent
  have next : q.iteration = p.iteration + 1 := hs.iteration
  have rest := finish_of_step hs
  cases h with
  | same hr hq hn =>
      refine .same ?_ ?_ ?_
      · rw [rest, ← hr]
      · rw [rest]
        exact hq
      · rw [rest]
        show (l.finish q).2.sent.length ≤ _
        omega
  | cut hq hi hr hv hp ht => exact .cut (.head hs hq) (by omega) hr hv (by simp [hp]) ht

/-- **All rounds of both runs**, by recursion on the answers still to come. -/
theorem finish_truncates (l : Loop) (answers : List Answer) (n k : Nat) (c : Context) (u v : World)
    (h : Due l.token n u v) : l.Truncates n ⟨k, answers, c, u⟩ (l.finish ⟨k, answers, c, v⟩) := by
  have round : l.RoundDue (k + 1) answers.head? c n u v := round_due h
  cases round with
  | halted hu hv hq hs =>
      refine .same ?_ ?_ ?_ <;> rw [finish_of_error hu] <;> try rw [finish_of_error hv]
      · exact hq
      · exact hs
  | ended hu hv hq hs =>
      refine .same ?_ ?_ ?_ <;> rw [finish_of_ended hu] <;> try rw [finish_of_ended hv]
      · exact hq
      · exact hs
  | @page m c' last u' v' hn hu hv hd hs =>
      subst hn
      have last_page (hl : answers = [] ∨ last = true) :
          l.Truncates (m + 1) ⟨k, answers, c, u⟩ (l.finish ⟨k, answers, c, v⟩) := by
        refine .same ?_ ?_ ?_ <;> rw [finish_of_last hu hl] <;> try rw [finish_of_last hv hl]
        · exact hd.quiet
        · show u'.sent.length ≤ u.sent.length + (m + 1)
          omega
      match answers, last with
      | [], _ => exact last_page (.inl rfl)
      | _ :: _, true => exact last_page (.inr rfl)
      | answer :: rest, false =>
          have shown := (Due.congruence l.token m).display .repeating hd
          have later := finish_truncates l rest m (k + 1) c' _ _ shown
          have goes : l.Step ⟨k, answer :: rest, c, u⟩ _ := .intro hu
          have goes' : l.Step ⟨k, answer :: rest, c, v⟩ _ := .intro hv
          rw [finish_of_step goes']
          exact later.cons goes rfl
  | @cut x u' v' hn hr hq hu hv =>
      subst hn
      rw [finish_of_ended hv]
      refine .cut .refl rfl hr hq rfl ?_
      rcases hru : l.round (k + 1) answers.head? c u with ⟨r, u''⟩
      obtain ⟨t, ht⟩ := hu
      obtain ⟨t', ht'⟩ := trail_finish_of_round hru
      rw [hru] at ht
      exact ⟨t ++ t', by rw [ht', ht, Trail.append_assoc]⟩

end Loop

/-! ## A request job -/

namespace RequestJob

variable {j : RequestJob} {n : Nat} {w : World}

/-- **The stores that the run of a job passes through**: the one it starts with, those between its
rounds and the one that it leaves. -/
inductive Holds (j : RequestJob) (w : World) : Option Store → Prop where
  | first : Holds j w w.store
  | between {p : Loop.Point} (h : j.Passes w p) : Holds j w p.world.store
  | last : Holds j w (j.run w).2.store

/-- Whether a run looks for a stop once more after its `n`-th request.  Before the run it always
does, and later it does so right before every other request. -/
def LooksAfter (j : RequestJob) (n : Nat) (w : World) : Prop :=
  n = 0 ∨ w.sent.length + n < (j.run w).2.sent.length

/-- **What a stop after `n` requests makes of the run of a job.** -/
structure Truncates (j : RequestJob) (n : Nat) (w : World)
    (s : Except Halt JobReport × World) : Prop where
  sent : s.2.sent <+: (j.run w).2.sent
  /-- No request is sent after the stop. -/
  inTime : s.2.sent.length ≤ w.sent.length + n
  events : s.2.events.dropLast <+: (j.run w).2.events
  store : j.Holds w s.2.store
  /-- A run that ends before it looks for a stop again is the same with the stop. -/
  same : ¬ j.LooksAfter n w → s.1 = (j.run w).1 ∧ s.2.quiet = (j.run w).2.quiet
  /-- Any other run is cancelled, after as many responses as it tells of. -/
  cancelled : j.LooksAfter n w → ∃ report, s.1 = .ok report ∧ report.outcome = .cancelled ∧
    report.iterations = n ∧ s.2.pages.length = w.pages.length + n
  /-- The response to the request under way is still taken up: the run comes to the point behind
  it just as the run without the stop, and sends and stores nothing from there on. -/
  answered : j.LooksAfter n w → 1 ≤ n → ∃ p, j.Passes w p ∧ p.iteration = n ∧
    s.2.sent = p.world.sent ∧ s.2.store = p.world.store ∧ p.world.events <+: s.2.events

/-- Two loops that end alike make two jobs that end alike. -/
lemma close_congr {r s : Except Halt LoopResult × World} (hr : s.1 = r.1)
    (hq : r.2.quiet = s.2.quiet) :
    (j.close s).1 = (j.close r).1 ∧ (j.close r).2.quiet = (j.close s).2.quiet := by
  rcases r with ⟨r, u⟩
  rcases s with ⟨s, v⟩
  obtain rfl : s = r := hr
  rcases s with (e | _) | s
  · exact ⟨rfl, congrArg
      (fun w => (w.tell (.jobFailed j.name e.message)).display j.token .failed) hq⟩
  · exact ⟨rfl, hq⟩
  · exact ⟨rfl, congrArg (fun w =>
      (w.tell (.jobCompleted j.name s.outcome.name s.iterations)).display j.token .stopped) hq⟩

/-- Where a run ends before the stop is seen. -/
lemma Truncates.of_same {r s : Except Halt LoopResult × World} (hu : j.run w = j.close r)
    (hr : s.1 = r.1) (hq : r.2.quiet = s.2.quiet) (hn : 1 ≤ n)
    (hs : r.2.sent.length ≤ w.sent.length + n) : j.Truncates n w (j.close s) := by
  obtain ⟨results, worlds⟩ := close_congr (j := j) hr hq
  rw [← hu] at results worlds
  rw [← sent_close j r, ← hu] at hs
  have sent : (j.close s).2.sent = (j.run w).2.sent := (congrArg World.sent worlds.symm :)
  have events : (j.close s).2.events = (j.run w).2.events := (congrArg World.events worlds.symm :)
  have store : (j.close s).2.store = (j.run w).2.store := (congrArg World.store worlds.symm :)
  have past : ¬ j.LooksAfter n w := by
    rw [LooksAfter]
    omega
  exact {
    sent := sent ▸ List.prefix_refl _
    inTime := sent ▸ hs
    events := events ▸ List.dropLast_prefix _
    store := store ▸ .last
    same := fun _ => ⟨results, worlds.symm⟩
    cancelled := fun h => absurd h past
    answered := fun h => absurd h past }

/-- Where the stop is seen in the world that the run without it has come to in `u`. -/
lemma Truncates.of_cut {u v : World} {context : Context} {pages : List Context}
    (hq : u.quiet = v.quiet) (hp : pages.length = n)
    (hu : ∃ t, (j.run w).2.trail = u.trail ++ t) (hs : u.sent.length = w.sent.length + n)
    (hl : j.LooksAfter n w) (hc : u.pages.length = w.pages.length + n) (hst : j.Holds w u.store)
    (ha : 1 ≤ n → ∃ p, j.Passes w p ∧ p.iteration = n ∧ u.sent = p.world.sent ∧
      u.store = p.world.store ∧ p.world.events <+: u.events) :
    j.Truncates n w (j.close (.ok ⟨.cancelled, context, pages⟩, v)) := by
  have sent : v.sent = u.sent := (congrArg World.sent hq.symm :)
  have events : v.events = u.events := (congrArg World.events hq.symm :)
  have store : v.store = u.store := (congrArg World.store hq.symm :)
  obtain ⟨t, ht⟩ := hu
  exact {
    sent := ⟨t.sent, by rw [sent_close, sent]; exact (congrArg Trail.sent ht).symm⟩
    inTime := Nat.le_of_eq (by rw [sent_close, sent, hs])
    events := ⟨t.events, by
      have log : (v.events ++ [Event.jobCompleted j.name "cancelled" pages.length]).dropLast =
          u.events := by rw [List.dropLast_concat, events]
      exact (congrArg (· ++ t.events) log).trans (congrArg Trail.events ht).symm⟩
    store := by
      show j.Holds w v.store
      rwa [store]
    same := fun h => absurd hl h
    cancelled := fun _ => ⟨_, rfl, rfl, hp, by
      have told : (v.events ++ [Event.jobCompleted j.name "cancelled" pages.length]).filterMap
          Event.page? = u.pages := by simp [World.pages, events, Event.page?]
      exact (congrArg List.length told).trans hc⟩
    answered := fun _ hn => by
      obtain ⟨p, hp, hi, hps, hpst, hpe⟩ := ha hn
      exact ⟨p, hp, hi, (sent_close j _).trans (sent.trans hps), store.trans hpst,
        hpe.trans ⟨_, by rw [← events]; rfl⟩⟩ }

/-- What a stop makes of the loop, it makes of the job. -/
lemma Truncates.of_loop {c : Context} {s : Except Halt LoopResult × World}
    (hs : (j.begun w).isStopRequested j.token = false)
    (hc : j.toLoop.resumed j.context w = .ok c) (hn : 1 ≤ n)
    (h : j.toLoop.Truncates n ⟨0, (j.begun w).answers, c, j.begun w⟩ s) :
    j.Truncates n w (j.close s) := by
  have runs := run_of_running hs
  rw [Loop.run_of_resumed (w := j.begun w) hc] at runs
  cases h with
  | same hr hq hs => exact .of_same runs hr hq hn hs
  | @cut q x u v pages hq hi hr hv hp ht =>
      have passes : j.Passes w q := ⟨hs, c, hc, hq⟩
      obtain ⟨hsent, hpages⟩ := Loop.length_of_reaches hq
      obtain ⟨sent, told, events, stored⟩ := Loop.ready_keeps hr
      -- the run without the stop goes on from `q`, and sends the request that is ready there
      have later : ∃ t, (j.run w).2.trail = u.trail ++ { sent := [x.1] } ++ t := by
        obtain ⟨pages', -, hf⟩ := Loop.finish_of_reaches hq
        obtain ⟨t, ht⟩ := ht
        obtain ⟨t', ht'⟩ := j.trail_close (j.toLoop.finish ⟨0, (j.begun w).answers, c, j.begun w⟩)
        refine ⟨t ++ t', ?_⟩
        rw [runs, ht', hf, ← Trail.append_assoc, ← ht]
      obtain ⟨t, ht⟩ := later
      have more : (j.run w).2.sent = u.sent ++ [x.1] ++ t.sent := congrArg Trail.sent ht
      have count : u.sent.length = w.sent.length + n := by
        have same : (j.begun w).sent.length = w.sent.length := rfl
        simp only [sent, same] at hsent hi ⊢
        omega
      have looks : j.LooksAfter n w := by
        refine .inr ?_
        rw [more, List.length_append, List.length_append, List.length_singleton, count]
        omega
      refine .of_cut hv hp ⟨{ sent := [x.1] } ++ t, by rw [ht, Trail.append_assoc]⟩ count looks
        ?_ (stored ▸ .between passes) fun _ => ⟨q, passes, ?_, sent, stored, ?_⟩
      · have none : (j.begun w).pages = w.pages := by
          simp [begun, World.pages, World.tell, World.look, Event.page?]
        simp only [told, none] at hpages hi ⊢
        omega
      · simpa using hi
      · exact events

/-- A stop after so many answers is due after so many. -/
lemma due_stopAfter (hw : w.Undisturbed j.token) (hn : w.network = .scripted) (n : Nat) :
    Due j.token n w (w.stopAfter j.token n) := by
  cases n with
  | zero =>
      have asked : w.stopAfter j.token 0 = { w with stops := w.stops ++ [j.token] } := by
        simp [World.stopAfter, World.requestStops, World.passOn, hw.relay]
      rw [asked]
      exact ⟨rfl, hw, hn, hw.interrupts, hw.relay, World.isStopRequested_append _ _⟩
  | succ n => exact ⟨rfl, hw, hn, hw.interrupts, hw.relay, hw.notStopped, rfl, rfl⟩

/-- **A stop only truncates.**  Of every request, from every context and store, with any answers:
the run with a stop after `n` requests is the run without it, up to the first look for a stop after
the stop, and ends there. -/
theorem run_stopAfter (j : RequestJob) (n : Nat) (w : World) (hw : w.Undisturbed j.token)
    (hn : w.network = .scripted) : j.Truncates n w (j.run (w.stopAfter j.token n)) := by
  have due : Due j.token n (j.begun w) (j.begun (w.stopAfter j.token n)) :=
    ((Due.congruence j.token n).tell rfl (due_stopAfter hw hn n)).look
  have runs := run_of_running due.calm.notStopped
  cases n with
  | zero =>
      rw [run_of_stopped due.stop.2.2]
      refine .of_cut due.quiet rfl (j.trail_run w) rfl (.inl rfl) ?_ .first (fun h => by omega)
      simp [begun, World.pages, World.tell, World.look, Event.page?]
  | succ n =>
      have runs' := run_of_running due.stop.2.2.1
      have stored : j.toLoop.resumed j.context (j.begun w) =
          j.toLoop.resumed j.context (j.begun (w.stopAfter j.token (n + 1))) :=
        Loop.resumed_congr ((Due.congruence _ _).store due) ((Due.congruence _ _).outages due)
      rcases hc : j.toLoop.resumed j.context (j.begun w) with e | c
      · have hc' := hc
        rw [stored] at hc'
        rw [Loop.run_of_resumed_error hc] at runs
        rw [runs', Loop.run_of_resumed_error hc']
        exact .of_same runs rfl due.quiet (by omega) (Nat.le_add_right _ _)
      · have hc' := hc
        rw [stored] at hc'
        rw [Loop.run_of_resumed hc] at runs
        rw [runs', Loop.run_of_resumed hc']
        have answers : (j.begun (w.stopAfter j.token (n + 1))).answers = (j.begun w).answers :=
          (congrArg World.answers due.quiet.symm :)
        rw [answers]
        exact .of_loop due.calm.notStopped hc (by omega) (j.toLoop.finish_truncates _ _ _ _ _ _ due)

theorem run_stopAfter_items :
    itemsWorld.Undisturbed [0] ∧ itemsWorld.network = .scripted ∧
      Truncates ⟨itemsRequest, [], [0]⟩ 1 itemsWorld
        (RequestJob.run ⟨itemsRequest, [], [0]⟩ (itemsWorld.stopAfter [0] 1)) :=
  ⟨⟨rfl, rfl, rfl, rfl⟩, rfl, run_stopAfter _ 1 itemsWorld ⟨rfl, rfl, rfl, rfl⟩ rfl⟩

end RequestJob

end Connector
