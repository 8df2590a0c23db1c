import Connector.Engine
import Connector.Proofs.Scheduler.Queue

/-!
# Steps that related worlds do not tell apart

A job does nothing but call functions, send requests, use the store, tell, show, print, pass stops
on and look for them.  So if a relation between worlds is kept by each of these, then a job comes
to the same in related worlds and leaves related worlds behind.

* `Work.Steady` — a step that does the same in all related worlds.
* `Harmony` — what is asked of a relation: which events may be told, and which tokens are seen to
  be stopped alike.
* `Harmony.loop_run`, `Harmony.perform`, `Harmony.requestJob_run`, `Harmony.forkingJob_run`,
  `Harmony.runJob` — loops, stages and jobs, each from its parts.
* `Lasting` — what every step keeps; `Lasting.harmony` — a relation between every such world and
  itself.
* `Since`, `harmony_since` — what holds of the logs and of the store since a run began: a relation
  between every such world and itself.
* `lasting_functions` — the functions, which a run does not change; `lasting_asked` — the stops asked
  for, which it does not take back.
-/

namespace Connector

namespace Work

variable {α β : Type} {R : World → World → Prop}

/-- **A steady step**: in related worlds it comes to the same, and leaves related worlds. -/
def Steady (R : World → World → Prop) (x : Work α) : Prop := Tandem R Eq x x

namespace Steady

protected lemma pure (a : α) : Steady R (pure a : Work α) := Tandem.pure rfl

protected lemma throw (h : Halt) : Steady R (throw h : Work α) := Tandem.throw h

protected lemma fail (e : RunError) : Steady R (fail e : Work α) := Tandem.fail e

/-- A computation does not see the world at all. -/
protected lemma attempt (r : Except RunError α) : Steady R (attempt r) := Tandem.attempt r

/-- A change is steady if it keeps the relation. -/
protected lemma modify {f : World → World} (h : ∀ w u, R w u → R (f w) (f u)) :
    Steady R (modify f : Work Unit) :=
  fun w u hr => ⟨.ok rfl, h w u hr⟩

protected lemma bind {x : Work α} {f : α → Work β} (hx : Steady R x)
    (hf : ∀ a, Steady R (f a)) : Steady R (x >>= f) := by
  refine Tandem.bind hx ?_
  rintro a _ rfl
  exact hf a

/-- What holds of every value of the first step may be used for the second. -/
lemma bind_yields {x : Work α} {f : α → Work β} {P : α → Prop} (hx : Steady R x)
    (hp : Yields x P) (hf : ∀ a, P a → Steady R (f a)) : Steady R (x >>= f) := by
  have first : Tandem R (fun a b => a = b ∧ P a) x x := by
    intro w u hr
    obtain ⟨same, related⟩ := hx w u hr
    refine ⟨?_, related⟩
    rcases hw : x w with ⟨r, w'⟩
    rw [hw] at same
    generalize (x u).1 = r' at same
    cases same with
    | ok h => exact .ok ⟨h, hp w _ w' hw⟩
    | error h => exact .error h
  refine Tandem.bind first ?_
  rintro a _ ⟨rfl, ha⟩
  exact hf a ha

/-- To read the world is steady where all that matters is the same in related worlds. -/
lemma get_bind {f : World → Work β} (hf : ∀ w u, R w u → f w = f u)
    (h : ∀ w, Steady R (f w)) : Steady R (get >>= f) := by
  refine Tandem.bind_get fun w u hr => ?_
  rw [← hf w u hr]
  exact h w w u hr

/-- Keeping a failure as a result. -/
protected lemma settle {x : Work α} (hx : Steady R x) : Steady R (settle x) := by
  intro w u hr
  obtain ⟨same, related⟩ := hx w u hr
  unfold Connector.settle
  rcases hw : x w with ⟨r, w'⟩
  rcases hu : x u with ⟨r', u'⟩
  rw [hw, hu] at same related
  cases same with
  | ok h =>
      subst h
      exact ⟨.ok rfl, related⟩
  | error h =>
      cases h with
      | failed e => exact ⟨.ok rfl, related⟩
      | hung => exact ⟨.error .hung, related⟩

/-- What a steady step comes to in two related worlds. -/
lemma exists_apply {x : Work α} (hx : Steady R x) {w u : World} (hr : R w u) :
    ∃ r w' u', x w = (r, w') ∧ x u = (r, u') ∧ R w' u' := by
  obtain ⟨same, related⟩ := hx w u hr
  rcases hw : x w with ⟨r, w'⟩
  rcases hu : x u with ⟨r', u'⟩
  rw [hw, hu] at same related
  refine ⟨r, w', u', rfl, ?_, related⟩
  cases same with
  | ok h => rw [h]
  | error h => rfl

end Steady

end Work

open Work

/-- **A relation between worlds that running jobs keep.**  `E` are the events that may be told,
`T` the tokens that are stopped in both worlds or in none, and `S` those whose stops may be passed
on while a job runs for someone. -/
structure Harmony (R : World → World → Prop) (E : Event → Prop) (T : Token → Prop)
    (S : Token → Prop := T) : Prop where
  functions {w u : World} : R w u → w.functions = u.functions
  network {w u : World} : R w u → w.network = u.network
  answers {w u : World} : R w u → w.answers = u.answers
  store {w u : World} : R w u → w.store = u.store
  outages {w u : World} : R w u → w.outages = u.outages
  stopped {w u : World} {t : Token} : T t → R w u → w.isStopRequested t = u.isStopRequested t
  child {t : Token} (n : Nat) : T t → T (t.child n)
  skipped (job processor : String) : E (.processorSkipped job processor)
  tell {w u : World} {e : Event} : E e → R w u → R (w.tell e) (u.tell e)
  print {w u : World} (s : String) : R w u → R (w.print s) (u.print s)
  display {w u : World} (t : Token) (s : JobState) : R w u → R (w.display t s) (u.display t s)
  look {w u : World} : R w u → R w.look u.look
  exchange {w u : World} (r : Http.Request) : R w u → R (w.exchange r) (u.exchange r)
  relay {w u : World} (s : Token) (job : Option Token) : S s → R w u →
    R { w with relay := job.map fun t => (s, t) } { u with relay := job.map fun t => (s, t) }

namespace Harmony

variable {R : World → World → Prop} {E : Event → Prop} {T S : Token → Prop}

/-! ## Single steps -/

/-- To tell an event that may be told is steady. -/
lemma emit (hR : Harmony R E T S) {e : Event} (he : E e) : Steady R (emit e) :=
  Steady.modify fun _ _ => hR.tell he

lemma say (hR : Harmony R E T S) (s : String) : Steady R (say s) :=
  Steady.modify fun _ _ => hR.print s

lemma publish (hR : Harmony R E T S) (t : Token) (s : JobState) : Steady R (publish t s) :=
  Steady.modify fun _ _ => hR.display t s

/-- A look for a stop is steady where the token is one that related worlds see alike. -/
lemma checkStop (hR : Harmony R E T S) {t : Token} (ht : T t) : Steady R (checkStop t) := by
  intro w u hr
  have seen := hR.stopped ht (hR.look hr)
  rw [checkStop_apply, checkStop_apply, seen]
  exact ⟨.ok rfl, hR.look hr⟩

/-! ## Loops -/

variable {l : Loop}

/-- A processor is run with the functions, which related worlds share. -/
lemma process (hR : Harmony R E T S) (l : Loop) (p : Processor) (context : Context) :
    Steady R (l.process p context) := by
  refine Steady.get_bind (fun w u hr => by rw [hR.functions hr]) fun w => ?_
  refine Steady.bind (hR.say _) fun _ => ?_
  rcases (p.run w.functions context).outcome with e | _ | outputs
  · exact Steady.fail e
  · exact Steady.bind (hR.emit (hR.skipped _ _)) fun _ => Steady.pure _
  · exact Steady.pure _

/-- A loop resumes from the store, which related worlds have in common. -/
lemma resume (hR : Harmony R E T S) (l : Loop) (context : Context) :
    Steady R (l.resume context) := by
  refine Steady.get_bind (fun w u hr => by rw [hR.store hr, hR.outages hr]) fun w => ?_
  rcases l.request.checkpoint with _ | checkpoint
  · exact Steady.pure _
  · rcases w.store with _ | store
    · exact Steady.pure _
    · dsimp only
      rcases checkpoint.renderScope context with e | scope
      · dsimp only
        split_ifs
        · exact Steady.pure _
        · exact Steady.fail e
      · dsimp only
        rcases store.get scope (w.outages 0) with e | _ | saved
        · exact Steady.fail _
        · exact Steady.pure _
        · exact Steady.pure _

lemma ready (hR : Harmony R E T S) (l : Loop) (context : Context) : Steady R (l.ready context) := by
  refine Steady.bind (hR.publish _ _) fun _ => Steady.bind (Steady.attempt _) fun request => ?_
  refine Steady.bind (hR.publish _ _) fun _ => Steady.bind (hR.process l _ _) fun context => ?_
  exact Steady.pure _

/-- **What comes after a response**, where writing keeps the relation. -/
lemma digest (hR : Harmony R E T S) (l : Loop)
    (hk : ∀ (s : Store) (w u : World), R w u → R (w.keep s) (u.keep s))
    (hw : ∀ scope content, E (.checkpointWritten l.job scope content))
    (hi : ∀ n context, E (.iterationCompleted l.job n context)) (i : Nat) (r : Http.Response)
    (context : Context) : Steady R (l.digest i r context) := by
  have write (c : Context) : Steady R (l.writeCheckpoint c) := by
    rw [Loop.writeCheckpoint]
    rcases l.request.checkpoint with _ | checkpoint
    · exact Steady.pure _
    · refine Steady.bind (Steady.attempt _) fun scope => ?_
      refine Steady.bind (Steady.attempt _) fun content => ?_
      refine Steady.get_bind (fun w u hr => by rw [hR.store hr, hR.outages hr]) fun w => ?_
      rcases w.store with _ | store
      · exact hR.emit (hw _ _)
      · dsimp only
        rcases store.set scope content (w.outages 0) with e | kept
        · exact Steady.bind (Steady.fail _) fun _ => hR.emit (hw _ _)
        · exact Steady.bind (Steady.modify (hk kept)) fun _ => hR.emit (hw _ _)
  refine Steady.bind (hR.publish _ _) fun _ => Steady.bind (hR.process l _ _) fun c => ?_
  refine Steady.bind (write c) fun _ => Steady.bind (hR.emit (hi _ _)) fun _ => ?_
  refine Steady.get_bind (fun w u hr => by rw [hR.functions hr]) fun w => ?_
  exact Steady.bind (hR.say _) fun _ => Steady.bind (Steady.attempt _) fun _ => Steady.pure _

/-- A request is sent alike, answered or not. -/
lemma send (hR : Harmony R E T S) (request : Http.Request) (answer : Option Answer) :
    Steady R (Loop.send request answer) := by
  refine Steady.get_bind (fun w u hr => by rw [hR.network hr]) fun w => ?_
  rcases w.network
  · exact Steady.bind (Steady.modify fun _ _ => hR.exchange request) fun _ => Steady.pure _
  · rcases request.refusal? with _ | e
    · exact Steady.pure _
    · exact Steady.pure _

section Rounds

variable (hd : ∀ i r context, Steady R (l.digest i r context))

include hd

/-- Everything after an answer is steady if what is done with a response is. -/
lemma receive (i : Nat) (answer : Answer) (context : Context) :
    Steady R (l.receive i answer context) := by
  cases answer with
  | silence => exact Steady.throw _
  | refusal e =>
      simp only [Loop.receive]
      split_ifs
      · exact Steady.pure _
      · exact Steady.fail _
  | response r =>
      simp only [Loop.receive]
      split_ifs
      · exact Steady.pure _
      · exact Steady.bind (hd _ _ _) fun _ => Steady.pure _

/-- One round of a loop, from the look for a stop to the last thing done with the answer. -/
lemma round (hR : Harmony R E T S) (ht : T l.token) (i : Nat) (answer : Option Answer)
    (context : Context) : Steady R (l.round i answer context) := by
  have prepared : Steady R (l.prepare context) := by
    refine Steady.bind (hR.ready l _) fun x => Steady.bind (hR.checkStop ht) fun stop => ?_
    cases stop <;> exact Steady.pure _
  refine Steady.bind prepared fun x => ?_
  rcases x with ⟨_ | request, c⟩
  · exact Steady.pure _
  · exact Steady.bind (hR.send _ _) fun answer => receive hd i answer c

/-- **All rounds**, by recursion on the answers still to come. -/
lemma rounds (hR : Harmony R E T S) (ht : T l.token) :
    ∀ (answers : List Answer) (n : Nat) (context : Context),
      Steady R (l.rounds answers n context)
  | [], n, context => by
      refine Steady.bind (round hd hR ht _ _ _) fun r => ?_
      cases r <;> exact Steady.pure _
  | answer :: rest, n, context => by
      refine Steady.bind (round hd hR ht _ _ _) fun r => ?_
      rcases r with ⟨outcome, c⟩ | ⟨c, _ | _⟩
      · exact Steady.pure _
      · refine Steady.bind (hR.publish _ _) fun _ => ?_
        exact Steady.bind (rounds hR ht rest _ _) fun _ => Steady.pure _
      · exact Steady.pure _

/-- **A loop**, from its checkpoint on. -/
theorem loop_run (hR : Harmony R E T S) (ht : T l.token) (context : Context) :
    Steady R (l.run context) := by
  refine Steady.bind (hR.resume l context) fun c => ?_
  exact Steady.get_bind (fun w u hr => by rw [hR.answers hr]) fun w => rounds hd hR ht _ _ _

end Rounds

end Harmony

/-! ## Stages and jobs -/

/-- What is asked of a request: its job, under any token, takes up responses steadily. -/
def Request.Digests (R : World → World → Prop) (request : Request) : Prop :=
  ∀ token i r context, Steady R (Loop.digest ⟨request.name, request, token⟩ i r context)

/-- The requests that stages send. -/
def Stage.requests (stages : List Stage) : List Request :=
  stages.filterMap fun stage => match stage with
    | .http request => some request
    | _ => none

/-- Whether an event is told of a job as a whole, rather than from inside. -/
def Event.isJobLevel : Event → Bool
  | .jobStarted _ | .jobForked _ _ | .jobCompleted _ _ _ | .jobFailed _ _ => true
  | .processorSkipped _ _ | .iterationCompleted _ _ _ | .checkpointWritten _ _ _ => false

namespace Harmony

variable {R : World → World → Prop} {E : Event → Prop} {T S : Token → Prop}

/-- **A stage**, under a token that is stopped alike. -/
theorem perform (hR : Harmony R E T S) {stage : Stage}
    (hd : ∀ request ∈ Stage.requests [stage], request.Digests R) {token : Token} (ht : T token)
    (context : Context) : Steady R (stage.perform token context) := by
  cases stage with
  | http request =>
      have digests : request.Digests R := hd request (by simp [Stage.requests])
      exact Steady.bind (loop_run (digests token) hR ht context) fun _ => Steady.pure _
  | split s => exact Steady.attempt _
  | process p =>
      refine Steady.get_bind (fun w u hr => by rw [hR.functions hr]) fun w => ?_
      refine Steady.bind (hR.say _) fun _ => ?_
      rcases (p.run w.functions context).outcome with e | _ | outputs
      · exact Steady.fail e
      · exact Steady.bind (hR.emit (hR.skipped _ _)) fun _ => Steady.pure _
      · exact Steady.pure _

/-- The loop of a request job, which a stop may keep from starting. -/
lemma requestJob_loop (hR : Harmony R E T S) {j : RequestJob} (hd : j.request.Digests R)
    (ht : T j.token) : Steady R j.loop := by
  refine Steady.bind (hR.checkStop ht) fun stop => ?_
  cases stop with
  | true => exact Steady.pure _
  | false => exact loop_run (hd j.token) hR ht _

section Jobs

variable (he : ∀ e : Event, e.isJobLevel → E e)

include he

/-- **A request job.** -/
theorem requestJob_run (hR : Harmony R E T S) {j : RequestJob} (hd : j.request.Digests R)
    (ht : T j.token) : Steady R j.run := by
  refine Steady.bind (hR.emit (he _ rfl)) fun _ => ?_
  refine Steady.bind (hR.requestJob_loop hd ht).settle fun result => ?_
  cases result with
  | ok result =>
      refine Steady.bind (hR.emit (he _ rfl)) fun _ => ?_
      exact Steady.bind (hR.publish _ _) fun _ => Steady.pure _
  | error e =>
      refine Steady.bind (hR.emit (he _ rfl)) fun _ => ?_
      exact Steady.bind (hR.publish _ _) fun _ => Steady.fail _

lemma finish (hR : Harmony R E T S) {f : Forks} (ht : T f.token) (outcome : String) :
    Steady R (f.finish outcome) := by
  rw [Forks.finish]
  split_ifs
  · exact Steady.pure _
  · refine Steady.bind (hR.checkStop ht) fun stop => Steady.bind (hR.emit (he _ rfl)) fun _ => ?_
    exact Steady.bind (hR.publish _ _) fun _ => Steady.pure _

/-- **A forking job**, up to its children. -/
theorem forkingJob_run (hR : Harmony R E T S) {j : ForkingJob}
    (hd : ∀ request ∈ Stage.requests j.stages, request.Digests R) (ht : T j.token) :
    Steady R j.run := by
  obtain ⟨name, context, stages, token⟩ := j
  have ended (outcome : String) : Steady R (Forks.ended name token outcome) :=
    finish he hR ht outcome
  refine Steady.bind (hR.publish _ _) fun _ => Steady.bind (hR.emit (he _ rfl)) fun _ => ?_
  rcases stages with _ | ⟨head, rest⟩
  · exact ended _
  · refine Steady.bind (hR.checkStop ht) fun stop => ?_
    cases stop with
    | true => exact ended _
    | false =>
        have first : Stage.requests [head] ⊆ Stage.requests (head :: rest) :=
          (((List.nil_sublist rest).cons_cons head).filterMap _).subset
        have digests : ∀ request ∈ Stage.requests [head], request.Digests R :=
          fun request h => hd request (first h)
        refine Steady.bind (hR.publish _ _) fun _ => ?_
        refine Steady.bind (hR.perform digests (hR.child 0 ht) context).settle fun result => ?_
        cases result with
        | error e =>
            refine Steady.bind (hR.emit (he _ rfl)) fun _ => ?_
            exact Steady.bind (hR.publish _ _) fun _ => Steady.fail _
        | ok outputs =>
            refine Steady.bind (hR.checkStop ht) fun late => ?_
            cases late with
            | true => exact ended _
            | false => exact Steady.pure _

lemma next (hR : Harmony R E T S) {f : Forks} (ht : T f.token) : Steady R f.next := by
  have ending (outcome : String) : Steady R (do return (none, ← f.finish outcome) :
      Work (Option ForkingJob × Forks)) :=
    Steady.bind (finish he hR ht outcome) fun _ => Steady.pure _
  rw [Forks.next]
  split_ifs
  · exact Steady.pure _
  · exact ending _
  · refine Steady.bind (hR.checkStop ht) fun stop => ?_
    cases stop with
    | true => exact ending _
    | false =>
        rcases f.outputs with _ | ⟨context, outputs⟩
        · exact ending _
        · exact Steady.bind (hR.emit (he _ rfl)) fun _ => Steady.pure _

/-- All children are handed out alike, by induction on how many. -/
lemma childrenFrom (hR : Harmony R E T S) (n : Nat) {f : Forks} (ht : T f.token) :
    Steady R (f.childrenFrom n) := by
  induction n generalizing f with
  | zero => exact Steady.pure _
  | succ n ih =>
      -- those that come after a child have the token of those before it
      refine Steady.bind_yields (next he hR ht) f.next_yields fun x hx => ?_
      rcases x with ⟨_ | child, g⟩
      · exact Steady.pure _
      · exact Steady.bind (ih (hx.token ▸ ht)) fun _ => Steady.pure _

lemma collect (hR : Harmony R E T S) {f : Forks} (ht : T f.token) (st : SchedulerState) :
    Steady R (Scheduler.collect f st) := by
  rw [Scheduler.collect, Forks.takeOutputs]
  split_ifs
  · refine Steady.bind (Steady.bind ?_ fun _ => Steady.pure _) fun _ => Steady.pure _
    exact Steady.bind (finish he hR ht _) fun _ => Steady.pure _
  · exact Steady.bind (childrenFrom he hR _ ht) fun _ => Steady.pure _

/-- A job that may never end, and the stop that gives it up. -/
lemma outcome (hR : Harmony R E T S) {s : Scheduler} (hs : T s.cancel) {job : ForkingJob}
    (hd : ∀ request ∈ Stage.requests job.stages, request.Digests R) (ht : T job.token) :
    Steady R (s.outcome job) := by
  intro w u hr
  obtain ⟨same, related⟩ := (forkingJob_run he hR hd ht).settle w u hr
  unfold Scheduler.outcome
  rcases hw : settle job.run w with ⟨r, w'⟩
  rcases hu : settle job.run u with ⟨r', u'⟩
  rw [hw, hu] at same related
  cases same with
  | ok h =>
      subst h
      exact ⟨.ok rfl, related⟩
  | error h =>
      have seen := hR.stopped hs related
      simp only [seen]
      split_ifs
      · exact ⟨.ok rfl, related⟩
      · exact ⟨.error h, related⟩

/-- **One job of a scheduler**, where the late job is seen alike. -/
theorem runJob (hR : Harmony R E T) {s : Scheduler} (hs : T s.cancel)
    (hl : ∀ st, Steady R (s.queueLate st)) {job : ForkingJob}
    (hd : ∀ request ∈ Stage.requests job.stages, request.Digests R) (ht : T job.token)
    (st : SchedulerState) : Steady R (s.runJob job st) := by
  have relay (job : Option Token) : Steady R (s.relayTo job) :=
    Steady.modify fun _ _ => hR.relay s.cancel job hs
  refine Steady.bind (relay _) fun _ => ?_
  refine Steady.bind_yields (outcome he hR hs hd ht) (s.outcome_yields job) fun r hr => ?_
  refine Steady.bind (relay _) fun _ => Steady.bind (hl _) fun st => ?_
  rcases r with _ | e | forks
  · exact Steady.pure _
  · exact Steady.pure _
  · exact Steady.bind (collect he hR ((hr forks rfl).2 ▸ ht) _) fun _ => Steady.pure _

end Jobs

end Harmony

/-! ## What lasts -/

/-- **Worlds of which something holds**, each related to itself. -/
def Same (P : World → Prop) (w u : World) : Prop := w = u ∧ P w

/-- A step is steady there when it keeps what holds. -/
lemma steady_same {α : Type} {P : World → Prop} {x : Work α} (h : ∀ w, P w → P (x w).2) :
    Steady (Same P) x := by
  rintro w _ ⟨rfl, hw⟩
  refine ⟨?_, rfl, h w hw⟩
  rcases (x w).1 with k | a
  · exact .error k
  · exact .ok rfl

/-- A step that is steady among the worlds with a property keeps the property. -/
lemma Work.Steady.keeps {α : Type} {P : World → Prop} {x : Work α} (h : Steady (Same P) x)
    {w : World} (hw : P w) : P (x w).2 :=
  (h w w ⟨rfl, hw⟩).2.2

/-- **What lasts**, whatever jobs do: events of `E` may be told, and stops of the tokens of `S` may
be passed on while a job runs. -/
structure Lasting (P : World → Prop) (E : Event → Prop) (S : Token → Prop) : Prop where
  skipped (job processor : String) : E (.processorSkipped job processor)
  tell {w : World} {e : Event} : E e → P w → P (w.tell e)
  print {w : World} (s : String) : P w → P (w.print s)
  display {w : World} (t : Token) (s : JobState) : P w → P (w.display t s)
  look {w : World} : P w → P w.look
  exchange {w : World} (r : Http.Request) : P w → P (w.exchange r)
  relay {w : World} (s : Token) (job : Option Token) : S s → P w →
    P { w with relay := job.map fun t => (s, t) }

namespace Lasting

variable {P : World → Prop} {E : Event → Prop} {S : Token → Prop}

/-- **Runs keep what lasts.** -/
lemma harmony (hP : Lasting P E S) : Harmony (Same P) E (fun _ => True) S where
  functions h := h.1 ▸ rfl
  network h := h.1 ▸ rfl
  answers h := h.1 ▸ rfl
  store h := h.1 ▸ rfl
  outages h := h.1 ▸ rfl
  stopped _ h := h.1 ▸ rfl
  child _ _ := trivial
  skipped := hP.skipped
  tell := by
    rintro w _ e he ⟨rfl, h⟩
    exact ⟨rfl, hP.tell he h⟩
  print := by
    rintro w _ s ⟨rfl, h⟩
    exact ⟨rfl, hP.print s h⟩
  display := by
    rintro w _ t s ⟨rfl, h⟩
    exact ⟨rfl, hP.display t s h⟩
  look := by
    rintro w _ ⟨rfl, h⟩
    exact ⟨rfl, hP.look h⟩
  exchange := by
    rintro w _ r ⟨rfl, h⟩
    exact ⟨rfl, hP.exchange r h⟩
  relay := by
    rintro w _ s job hs ⟨rfl, h⟩
    exact ⟨rfl, hP.relay s job hs h⟩

/-- What comes after a response keeps what writing keeps. -/
lemma digest (hP : Lasting P (fun _ => True) S) (hk : ∀ w s, P w → P (w.keep s)) (l : Loop)
    (i : Nat) (r : Http.Response) (context : Context) : Steady (Same P) (l.digest i r context) := by
  refine hP.harmony.digest l ?_ (fun _ _ => trivial) (fun _ _ => trivial) i r context
  rintro s w _ ⟨rfl, h⟩
  exact ⟨rfl, hk w s h⟩

/-- A response is dealt with alike wherever the store does not matter. -/
lemma digests (hP : Lasting P (fun _ => True) S) (hk : ∀ w s, P w → P (w.keep s))
    (request : Request) : request.Digests (Same P) :=
  fun _ i r context => hP.digest hk _ i r context

end Lasting

/-! ## What holds since a run began -/

/-- **What holds of the logs and of the store since a run began** in a world. -/
def Since (w₀ : World) (Q : List Event → Option Store → Prop) (w : World) : Prop :=
  ∃ t, w.trail = w₀.trail ++ t ∧ Q t.events w.store

section Since

variable {w₀ w : World} {Q : List Event → Option Store → Prop} {E : Event → Prop}

lemma Since.refl (h : Q [] w₀.store) : Since w₀ Q w₀ := ⟨.empty, (Trail.append_empty _).symm, h⟩

/-- A step that adds to the logs. -/
lemma Since.step {u : World} (h : Since w₀ Q w) {t : Trail} (ht : u.trail = w.trail ++ t)
    (hq : ∀ log, Q log w.store → Q (log ++ t.events) u.store) : Since w₀ Q u := by
  obtain ⟨before, hb, hw⟩ := h
  exact ⟨before ++ t, by rw [ht, hb, Trail.append_assoc], hq _ hw⟩

/-- A step that tells nothing and writes nothing. -/
lemma Since.silent {u : World} (h : Since w₀ Q w) {t : Trail} (ht : u.trail = w.trail ++ t)
    (he : t.events = []) (hs : u.store = w.store) : Since w₀ Q u :=
  h.step ht fun log hw => by rwa [he, List.append_nil, hs]

lemma World.store_passOn (w : World) : w.passOn.store = w.store := by
  rw [passOn]
  split
  · split <;> rfl
  · rfl

lemma World.store_ring (w : World) : w.ring.store = w.store := by
  rw [ring]
  split
  · split <;> rfl
  · rfl

lemma World.store_exchange (r : Http.Request) (w : World) : (w.exchange r).store = w.store := by
  show (w.arrive r).store = w.store
  rw [arrive, store_passOn, store_ring, count]

/-- **Runs keep what telling keeps.** -/
lemma harmony_since (w₀ : World) (he : ∀ e log s, E e → Q log s → Q (log ++ [e]) s)
    (hs : ∀ job processor, E (.processorSkipped job processor)) :
    Harmony (Same (Since w₀ Q)) E fun _ => True :=
  Lasting.harmony {
    skipped := hs
    tell := fun hE h => h.step (World.trail_tell _ _) fun log hw => he _ log _ hE hw
    print := fun _ h => h
    display := fun t s h => h.silent (World.trail_display t s _) rfl rfl
    look := id
    exchange := fun r h => h.silent (World.trail_exchange r _) rfl (World.store_exchange r _)
    relay := fun _ _ _ h => h }

/-- Where only the logs matter, writing keeps them as they are. -/
lemma Request.digests_since {L : List Event → Prop}
    (hR : Harmony (Same (Since w₀ fun log _ => L log)) E fun _ => True) (request : Request)
    (hw : ∀ scope content, E (.checkpointWritten request.name scope content))
    (hi : ∀ n context, E (.iterationCompleted request.name n context)) :
    request.Digests (Same (Since w₀ fun log _ => L log)) := by
  refine fun token i r context => hR.digest _ ?_ hw hi i r context
  rintro s w _ ⟨rfl, t, ht, hl⟩
  exact ⟨rfl, t, ht, hl⟩

end Since

/-! ## What a run does not change -/

/-- To pass a stop on may ask for one more, and that is all. -/
lemma World.exists_passOn (w : World) :
    ∃ more, w.passOn = { w with stops := w.stops ++ more } := by
  rw [passOn]
  split
  · rename_i source target hr
    split
    · exact ⟨[target], rfl⟩
    · exact ⟨[], by simp⟩
  · exact ⟨[], by simp⟩

/-- A request that comes in may ask for stops and ring the alarm, and that is all. -/
lemma World.exists_exchange (r : Http.Request) (w : World) : ∃ more rung, w.exchange r =
    { w.count r with
      answers := w.answers.drop 1, stops := w.stops ++ more, rung := rung } := by
  have ring (u : World) :
      ∃ more rung, u.ring = { u with stops := u.stops ++ more, rung := rung } := by
    rw [World.ring]
    split
    · split
      · exact ⟨_, _, rfl⟩
      · exact ⟨[], u.rung, by simp⟩
    · exact ⟨[], u.rung, by simp⟩
  obtain ⟨more, rung, hr⟩ := ring (w.count r)
  obtain ⟨passed, hp⟩ :=
    World.exists_passOn { w.count r with stops := (w.count r).stops ++ more, rung := rung }
  exact ⟨more ++ passed, rung, by rw [exchange, arrive, hr, hp, ← List.append_assoc]; rfl⟩

/-- **Runs call the functions that there are from the start.** -/
lemma lasting_functions (functions : Registry) :
    Lasting (fun w => w.functions = functions) (fun _ => True) fun _ => True where
  skipped _ _ := trivial
  tell _ h := h
  print _ h := h
  display _ _ h := h
  look h := h
  exchange r h := by
    obtain ⟨more, rung, same⟩ := World.exists_exchange r _
    exact same ▸ h
  relay _ _ _ h := h

/-- **Runs take no stop back.** -/
lemma lasting_asked (asked : List Token) :
    Lasting (fun w => asked <+: w.stops) (fun _ => True) fun _ => True where
  skipped _ _ := trivial
  tell _ h := h
  print _ h := h
  display _ _ h := h
  look h := h.trans (List.prefix_append _ _)
  exchange r h := by
    obtain ⟨more, rung, same⟩ := World.exists_exchange r _
    exact same ▸ h.trans (List.prefix_append _ _)
  relay _ _ _ h := h

end Connector
