import Connector.Proofs.Loop.Trail
import Mathlib.Logic.Relation

/-!
# How a loop moves on

A loop between two rounds is a point: the number of responses so far, the answers still to come,
the context and the world.  A round that goes on is a step from one point to the next.

* `Loop.round_of_ready_error`, `Loop.round_of_stopped`, `Loop.round_of_running` — a round, by how
  its request is made ready.
* `Loop.Step`, `Loop.Reaches` — one round that goes on, and any number of them.
* **`Loop.finish_of_reaches`** — a loop ends as it does from any point that it reaches.
* `RequestJob.Passes` — the points that the run of a job passes through.
-/

namespace Connector

open Work

/-- The result of a loop with pages in front of its others. -/
def LoopResult.behind (pages : List Context) (r : LoopResult) : LoopResult :=
  { r with pages := pages ++ r.pages }

namespace Loop

variable {l : Loop}

/-! ## One round -/

/-- A processor leaves the store alone. -/
lemma process_store (l : Loop) (p : Processor) (context : Context) (w : World) :
    (l.process p context w).2.store = w.store := by
  rw [process, bind_ok (get_apply w), bind_ok (say_apply _ w)]
  rcases (p.run w.functions context).outcome with e | _ | outputs <;> rfl

lemma ready_store (l : Loop) (context : Context) (w : World) :
    (l.ready context w).2.store = w.store := by
  rw [ready, bind_ok (publish_apply _ _ w)]
  rcases render l.request.options context with e | request
  · rfl
  · rw [attempt_ok, pure_bind, bind_ok (publish_apply _ _ _), bind_apply]
    have kept := l.process_store l.request.before context
      ((w.display l.token .running).display l.token .processing)
    rcases hp : l.process l.request.before context
      ((w.display l.token .running).display l.token .processing) with ⟨h | c, u⟩
    · rwa [hp] at kept
    · rwa [hp] at kept

/-- A round is to make the request ready, to look for a stop, to send and to receive. -/
lemma round_eq (i : Nat) (answer : Option Answer) (context : Context) :
    l.round i answer context = (do
      let x ← l.ready context
      let stop ← checkStop l.token
      if stop then return .ended .cancelled x.2
      else
        let answer ← send x.1 answer
        l.receive i answer x.2) := by
  rw [round, prepare]
  simp only [bind_assoc]
  congr 1; funext x
  congr 1; funext stop
  cases stop <;> simp

variable {i : Nat} {answer : Option Answer} {context : Context} {w w' : World}

/-- A round that fails before its request is over. -/
lemma round_of_ready_error {h : Halt} (hr : l.ready context w = (.error h, w')) :
    l.round i answer context w = (.error h, w') := by
  rw [round_eq, bind_error hr]

/-- A round that sees a stop before its request ends as cancelled. -/
lemma round_of_stopped {x : Http.Request × Context} (hr : l.ready context w = (.ok x, w'))
    (hs : w'.look.isStopRequested l.token = true) :
    l.round i answer context w = (.ok (.ended .cancelled x.2), w'.look) := by
  rw [round_eq, bind_ok hr, bind_ok (checkStop_apply _ _), hs]
  rfl

/-- A round that sees none sends its request and deals with the answer. -/
lemma round_of_running {x : Http.Request × Context} (hr : l.ready context w = (.ok x, w'))
    (hs : w'.look.isStopRequested l.token = false) (hn : w'.network = .scripted) :
    l.round i answer context w =
      l.receive i (answer.getD lastAnswer) x.2 (w'.look.exchange x.1) := by
  have answered : send x.1 answer w'.look =
      (.ok (answer.getD lastAnswer), w'.look.exchange x.1) := by
    have network : w'.look.network = .scripted := hn
    rw [send, bind_ok (get_apply _), network]
    rfl
  rw [round_eq, bind_ok hr, bind_ok (checkStop_apply _ _), hs]
  exact bind_ok answered _

/-! ## From point to point -/

/-- **A loop between two rounds.** -/
structure Point where
  /-- How many responses were processed. -/
  iteration : Nat
  /-- The answers still to come. -/
  answers : List Answer
  context : Context
  world : World

/-- What a loop comes to from a point on. -/
def finish (l : Loop) (p : Point) : Except Halt LoopResult × World :=
  l.rounds p.answers p.iteration p.context p.world

/-- **A round that goes on.** -/
inductive Step (l : Loop) : Point → Point → Prop where
  | intro {n : Nat} {answer : Answer} {rest : List Answer} {c c' : Context} {w w' : World}
      (h : l.round (n + 1) (some answer) c w = (.ok (.page c' false), w')) :
      l.Step ⟨n, answer :: rest, c, w⟩ ⟨n + 1, rest, c', w'.display l.token .repeating⟩

/-- **Rounds that go on**, any number of them. -/
abbrev Reaches (l : Loop) : Point → Point → Prop := Relation.ReflTransGen l.Step

variable {p q : Point}

/-! What a loop comes to from a point on, by how the next round ends. -/

section Next

variable {n : Nat} {answers : List Answer} {c c' : Context}

/-- A round that halts halts its loop. -/
lemma finish_of_error {h : Halt} (hr : l.round (n + 1) answers.head? c w = (.error h, w')) :
    l.finish ⟨n, answers, c, w⟩ = (.error h, w') := by
  cases answers <;> exact bind_error hr _

/-- A round that ends its loop is the last, and adds no page. -/
lemma finish_of_ended {outcome : LoopOutcome}
    (hr : l.round (n + 1) answers.head? c w = (.ok (.ended outcome c'), w')) :
    l.finish ⟨n, answers, c, w⟩ = (.ok ⟨outcome, c', []⟩, w') := by
  cases answers <;> exact bind_ok hr _

/-- A round that the loop is not to go on after is the last, and adds its page. -/
lemma finish_of_last {last : Bool}
    (hr : l.round (n + 1) answers.head? c w = (.ok (.page c' last), w'))
    (hl : answers = [] ∨ last = true) :
    l.finish ⟨n, answers, c, w⟩ = (.ok ⟨.stopConditionMet, c', [c']⟩, w') := by
  rcases answers with _ | ⟨answer, rest⟩
  · exact bind_ok hr _
  · obtain rfl : last = true := by simpa using hl
    exact bind_ok hr _

/-- A loop that goes on has one page more than the rest of it. -/
lemma finish_of_step (h : l.Step p q) :
    l.finish p = ((l.finish q).1.map (·.withPage q.context), (l.finish q).2) := by
  cases h with
  | @intro n answer rest c c' w w' h =>
      have goes : l.finish ⟨n, answer :: rest, c, w⟩ =
          (l.rounds rest (n + 1) c' >>= fun r => pure (r.withPage c'))
            (w'.display l.token .repeating) :=
        (bind_ok h _).trans (bind_ok (publish_apply _ _ _) _)
      rw [goes, bind_apply]
      rw [finish]
      rcases l.rounds rest (n + 1) c' (w'.display l.token .repeating) with ⟨e | r, v⟩ <;> rfl

/-- What a round leaves stays in front of what the rest of the loop leaves. -/
lemma trail_finish_of_round {r : Except Halt Round}
    (hr : l.round (n + 1) answers.head? c w = (r, w')) :
    ∃ t, (l.finish ⟨n, answers, c, w⟩).2.trail = w'.trail ++ t := by
  have ended {r : Except Halt LoopResult} (hf : l.finish ⟨n, answers, c, w⟩ = (r, w')) :
      ∃ t, (l.finish ⟨n, answers, c, w⟩).2.trail = w'.trail ++ t :=
    ⟨.empty, by rw [hf, Trail.append_empty]⟩
  rcases r with h | ⟨outcome, c'⟩ | ⟨c', last⟩
  · exact ended (finish_of_error hr)
  · exact ended (finish_of_ended hr)
  · rcases answers with _ | ⟨answer, rest⟩
    · exact ended (finish_of_last hr (.inl rfl))
    · cases last with
      | true => exact ended (finish_of_last hr (.inr rfl))
      | false =>
          rw [finish_of_step (.intro hr)]
          obtain ⟨t, ht, -⟩ := rounds_leaves l rest (n + 1) c' (w'.display l.token .repeating)
          refine ⟨{ states := [(l.token, .repeating)] } ++ t, ?_⟩
          rw [← Trail.append_assoc, ← World.trail_display, ← ht]
          rfl

end Next

lemma Step.iteration (h : l.Step p q) : q.iteration = p.iteration + 1 := by
  cases h; rfl

/-- **A loop ends as it does from any point that it reaches**, with the pages before that point in
front. -/
theorem finish_of_reaches (h : l.Reaches p q) :
    ∃ pages : List Context, q.iteration = p.iteration + pages.length ∧
      l.finish p = ((l.finish q).1.map (·.behind pages), (l.finish q).2) := by
  induction h using Relation.ReflTransGen.head_induction_on with
  | refl =>
      refine ⟨[], rfl, ?_⟩
      rcases l.finish q with ⟨e | r, v⟩ <;> rfl
  | @head p r hs _ ih =>
      obtain ⟨pages, hi, hf⟩ := ih
      refine ⟨r.context :: pages, ?_, ?_⟩
      · rw [hi, hs.iteration, List.length_cons]
        omega
      · rw [finish_of_step hs, hf]
        rcases l.finish q with ⟨e | r, v⟩ <;> rfl

/-- What a round that goes on leaves in the logs. -/
lemma Step.leaves (h : l.Step p q) : ∃ log request,
    l.PageLog (p.iteration + 1) log ∧
      q.world.trail = p.world.trail ++ ⟨log, [request], l.shown roundStates⟩ := by
  cases h with
  | @intro n answer rest c c' w w' h =>
      obtain ⟨t, ht, hq⟩ := round_leaves (n + 1) (some answer) c w
      rw [h] at ht hq
      cases hq with
      | @page _ _ request log hp =>
          refine ⟨log, request, hp, ?_⟩
          rw [World.trail_display, ht, Trail.append_assoc]
          simp [shown, roundStates]

lemma Step.length_sent (h : l.Step p q) : q.world.sent.length = p.world.sent.length + 1 := by
  obtain ⟨log, request, -, ht⟩ := h.leaves
  have sent : q.world.sent = p.world.sent ++ [request] := congrArg Trail.sent ht
  rw [sent, List.length_append, List.length_singleton]

lemma Step.length_pages (h : l.Step p q) : q.world.pages.length = p.world.pages.length + 1 := by
  obtain ⟨log, request, hp, ht⟩ := h.leaves
  obtain ⟨context, hc⟩ := hp.page
  have events : q.world.events = p.world.events ++ log := congrArg Trail.events ht
  simp [World.pages, events, hc]

/-- Rounds that go on send one request each, and tell of one response. -/
lemma length_of_reaches (h : l.Reaches p q) :
    q.world.sent.length + p.iteration = p.world.sent.length + q.iteration ∧
      q.world.pages.length + p.iteration = p.world.pages.length + q.iteration := by
  induction h with
  | refl => exact ⟨rfl, rfl⟩
  | @tail r s _ hs ih =>
      rw [hs.length_sent, hs.length_pages, hs.iteration]
      omega

end Loop

/-! ## From the first event to the last -/

namespace Loop

variable {l : Loop} {context : Context} {w : World}

/-- What the stored checkpoint makes of a context. -/
def resumed (l : Loop) (context : Context) (w : World) : Except RunError Context :=
  match l.request.checkpoint, w.store with
  | some checkpoint, some store =>
    match checkpoint.renderScope context with
    | .error e => if e.isMissingVariable then .ok context else .error e
    | .ok scope =>
      match store.get scope (w.outages 0) with
      | .error e => .error (.store e)
      | .ok saved => .ok (Record.overlay context (saved.getD []))
  | _, _ => .ok context

/-- What is stored depends on the store and on what is wrong with it. -/
lemma resumed_congr {u : World} (hs : w.store = u.store) (ho : w.outages = u.outages) :
    l.resumed context w = l.resumed context u := by
  rw [resumed, resumed, hs, ho]

/-- To resume reads the store and changes nothing. -/
lemma resume_apply (l : Loop) (context : Context) (w : World) :
    l.resume context w = attempt (l.resumed context w) w := by
  simp only [resume, resumed]
  rw [bind_ok (get_apply w)]
  rcases l.request.checkpoint with _ | checkpoint
  · rfl
  · rcases w.store with _ | store
    · rfl
    · rcases hs : checkpoint.renderScope context with e | scope
      · by_cases hm : e.isMissingVariable = true <;> simp [hs, hm]
      · rcases hg : store.get scope (w.outages 0) with e | _ | saved <;> simp [hs, hg, Record.overlay]

/-- A loop that cannot resume fails at once. -/
lemma run_of_resumed_error {e : RunError} (hr : l.resumed context w = .error e) :
    l.run context w = (.error (.failed e), w) :=
  bind_error (by rw [resume_apply, hr]; rfl) _

/-- A loop that resumes begins its rounds in the context that it resumes. -/
lemma run_of_resumed {c : Context} (hr : l.resumed context w = .ok c) :
    l.run context w = l.finish ⟨0, w.answers, c, w⟩ := by
  have resumes : l.resume context w = (.ok c, w) := by rw [resume_apply, hr]; rfl
  exact (bind_ok resumes _).trans (bind_ok (get_apply w) _)

end Loop

namespace RequestJob

variable {j : RequestJob} {w : World}

/-- What a job makes of the end of its loop. -/
def close (j : RequestJob) : Except Halt LoopResult × World → Except Halt JobReport × World
  | (.ok r, w) => (.ok ⟨j.name, r.outcome, r.iterations, r.context⟩,
      (w.tell (.jobCompleted j.name r.outcome.name r.iterations)).display j.token .stopped)
  | (.error (.failed e), w) => (.error (.failed e),
      (w.tell (.jobFailed j.name e.message)).display j.token .failed)
  | (.error .hung, w) => (.error .hung, w)

/-- The world in which the loop of a job looks for a stop for the first time. -/
def begun (j : RequestJob) (w : World) : World := (w.tell (.jobStarted j.name)).look

/-- A job tells that it starts, runs its loop and closes. -/
lemma run_eq (j : RequestJob) (w : World) :
    j.run w = j.close (j.loop (w.tell (.jobStarted j.name))) := by
  rw [run, bind_ok (emit_apply _ _), bind_apply]
  rw [settle]
  rcases j.loop (w.tell (.jobStarted j.name)) with ⟨(e | _) | r, v⟩ <;> rfl

/-- A job that is stopped before it starts. -/
lemma run_of_stopped (h : (j.begun w).isStopRequested j.token = true) :
    j.run w = j.close (.ok ⟨.cancelled, j.context, []⟩, j.begun w) := by
  rw [run_eq]
  rw [loop, bind_ok (checkStop_apply _ _)]
  rw [begun] at h
  rw [h]
  rfl

/-- A job that is not stopped before its loop runs it. -/
lemma run_of_running (h : (j.begun w).isStopRequested j.token = false) :
    j.run w = j.close (j.toLoop.run j.context (j.begun w)) := by
  rw [run_eq]
  rw [loop, bind_ok (checkStop_apply _ _)]
  rw [begun] at h
  rw [h]
  rfl

/-- **The points between rounds that the run of a job passes through.**  The first one is behind
the checkpoint that is laid over the context. -/
def Passes (j : RequestJob) (w : World) (p : Loop.Point) : Prop :=
  (j.begun w).isStopRequested j.token = false ∧
    ∃ c, j.toLoop.resumed j.context w = .ok c ∧
      j.toLoop.Reaches ⟨0, (j.begun w).answers, c, j.begun w⟩ p

/-- **A job ends as its loop does from any point that it passes through.** -/
theorem run_of_passes {p : Loop.Point} (h : j.Passes w p) :
    ∃ pages : List Context, pages.length = p.iteration ∧
      j.run w = j.close ((j.toLoop.finish p).1.map (·.behind pages), (j.toLoop.finish p).2) := by
  obtain ⟨hs, c, hc, hp⟩ := h
  obtain ⟨pages, hi, hf⟩ := Loop.finish_of_reaches hp
  refine ⟨pages, by simpa using hi.symm, ?_⟩
  rw [run_of_running hs, Loop.run_of_resumed (w := j.begun w) hc, hf]

lemma sent_close (j : RequestJob) (r : Except Halt LoopResult × World) :
    (j.close r).2.sent = r.2.sent := by
  rcases r with ⟨(e | _) | r, u⟩ <;> rfl

lemma store_close (j : RequestJob) (r : Except Halt LoopResult × World) :
    (j.close r).2.store = r.2.store := by
  rcases r with ⟨(e | _) | r, u⟩ <;> rfl

lemma pages_close (j : RequestJob) (r : Except Halt LoopResult × World) :
    (j.close r).2.pages = r.2.pages := by
  rcases r with ⟨(e | _) | r, u⟩
  · simp [close, World.pages, World.tell, World.display, Event.page?]
  · rfl
  · simp [close, World.pages, World.tell, World.display, Event.page?]

/-- The end of a job adds to the logs. -/
lemma trail_close (j : RequestJob) (r : Except Halt LoopResult × World) :
    ∃ t, (j.close r).2.trail = r.2.trail ++ t := by
  rcases r with ⟨(e | _) | r, v⟩
  · exact ⟨_, by rw [close, World.trail_display, World.trail_tell, Trail.append_assoc]⟩
  · exact ⟨.empty, (Trail.append_empty _).symm⟩
  · exact ⟨_, by rw [close, World.trail_display, World.trail_tell, Trail.append_assoc]⟩

/-- The start of a job is told first. -/
lemma trail_run (j : RequestJob) (w : World) :
    ∃ t, (j.run w).2.trail = (j.begun w).trail ++ t := by
  obtain ⟨t, ht, -⟩ := loop_leaves (j := j) (w.tell (.jobStarted j.name))
  obtain ⟨t', ht'⟩ := j.trail_close (j.loop (w.tell (.jobStarted j.name)))
  exact ⟨t ++ t', by rw [run_eq, ht', ht, Trail.append_assoc]; rfl⟩

end RequestJob

end Connector
