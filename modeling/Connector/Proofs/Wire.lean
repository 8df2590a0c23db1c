import Connector.Proofs.Harmony

/-!
# What leaves the network alone

Of all that jobs do, only the rounds of a loop use the network.  Everything else comes to an end by
itself, sends nothing and takes no answer.

* `World.wire` — the network's side of a world.
* `Work.Quiet` — a step that comes to an end and leaves that side as it is.
* `Loop.ready_quiet`, `Loop.receive_quiet` — a round up to its request, and from its answer on.
* `Stage.perform_quiet` — stages that are no requests.
* `Forks.finish_quiet`, `Scheduler.collect_quiet` — the end of a job, and what it leaves.
* `Scheduler.queueLate_quiet`, `Scheduler.relayTo_quiet` — what a scheduler does around a job.
-/

namespace Connector

/-- **The network's side of a world.** -/
structure Wire where
  network : Network
  answers : List Answer
  sent : List Http.Request

/-- The network's side of this world. -/
def World.wire (w : World) : Wire := ⟨w.network, w.answers, w.sent⟩

/-- A request that comes in takes the next answer. -/
lemma World.wire_exchange (r : Http.Request) (w : World) :
    (w.exchange r).wire = ⟨w.network, w.answers.drop 1, w.sent ++ [r]⟩ := by
  obtain ⟨more, rung, same⟩ := w.exists_exchange r
  rw [same]
  rfl

namespace Work

variable {α β : Type}

/-- **A quiet step** comes to an end, sends nothing and takes no answer. -/
def Quiet (x : Work α) : Prop :=
  ∀ w, (x w).1 ≠ .error .hung ∧ (x w).2.wire = w.wire

namespace Quiet

protected lemma pure (a : α) : Quiet (pure a : Work α) := fun _ => ⟨nofun, rfl⟩

protected lemma fail (e : RunError) : Quiet (fail e : Work α) := fun _ => ⟨nofun, rfl⟩

protected lemma attempt (r : Except RunError α) : Quiet (attempt r) := by
  cases r with
  | ok a => exact Quiet.pure a
  | error e => exact Quiet.fail e

/-- A change of the world is quiet if it leaves the wire alone. -/
protected lemma modify {f : World → World} (h : ∀ w, (f w).wire = w.wire) :
    Quiet (modify f : Work Unit) :=
  fun w => ⟨nofun, h w⟩

protected lemma emit (e : Event) : Quiet (emit e) := Quiet.modify fun _ => rfl

protected lemma publish (t : Token) (s : JobState) : Quiet (publish t s) :=
  Quiet.modify fun _ => rfl

protected lemma say (s : String) : Quiet (say s) := Quiet.modify fun _ => rfl

/-- A look for a stop is quiet: what it hears of comes by another way. -/
protected lemma checkStop (t : Token) : Quiet (checkStop t) := fun _ => ⟨nofun, rfl⟩

/-- **One step after the other.** -/
protected lemma bind {x : Work α} {f : α → Work β} (hx : Quiet x) (hf : ∀ a, Quiet (f a)) :
    Quiet (x >>= f) := by
  intro w
  obtain ⟨ends, kept⟩ := hx w
  rcases hw : x w with ⟨h | a, u⟩ <;> rw [hw] at ends kept
  · rw [bind_error hw]
    refine ⟨?_, kept⟩
    rintro ⟨⟩
    exact ends rfl
  · rw [bind_ok hw]
    exact ⟨(hf a u).1, (hf a u).2.trans kept⟩

protected lemma map {x : Work α} (hx : Quiet x) (f : α → β) : Quiet (f <$> x) := by
  rw [map_eq_pure_bind]
  exact hx.bind fun _ => Quiet.pure _

/-- Where what follows is quiet, it is the first step that is waited for. -/
lemma of_bind_hung {x : Work α} {f : α → Work β} (hf : ∀ a, Quiet (f a)) {w u : World}
    (h : (x >>= f) w = (.error .hung, u)) : x w = (.error .hung, u) := by
  rcases hx : x w with ⟨e | a, v⟩
  · rw [bind_error hx] at h
    cases h
    rfl
  · rw [bind_ok hx] at h
    exact absurd (congrArg Prod.fst h) (hf a v).1

/-- To read the world. -/
lemma get_bind {f : World → Work β} (h : ∀ w, Quiet (f w)) : Quiet (get >>= f) :=
  fun w => h w w

end Quiet

end Work

open Work

/-! ## Rounds -/

namespace Loop

variable (l : Loop)

lemma process_quiet (p : Processor) (context : Context) : Quiet (l.process p context) := by
  refine Quiet.get_bind fun w => (Quiet.say _).bind fun _ => ?_
  rcases (p.run w.functions context).outcome with e | _ | outputs
  · exact Quiet.fail e
  · exact (Quiet.emit _).bind fun _ => Quiet.pure _
  · exact Quiet.pure _

/-- **A round up to its request.** -/
lemma ready_quiet (context : Context) : Quiet (l.ready context) := by
  refine (Quiet.publish _ _).bind fun _ => (Quiet.attempt _).bind fun request => ?_
  refine (Quiet.publish _ _).bind fun _ => (l.process_quiet _ _).bind fun _ => ?_
  exact Quiet.pure _

lemma writeCheckpoint_quiet (context : Context) : Quiet (l.writeCheckpoint context) := by
  rw [writeCheckpoint]
  rcases l.request.checkpoint with _ | checkpoint
  · exact Quiet.pure _
  · refine (Quiet.attempt _).bind fun scope => (Quiet.attempt _).bind fun content => ?_
    refine Quiet.get_bind fun w => ?_
    rcases w.store with _ | store
    · exact Quiet.emit _
    · dsimp only
      rcases store.set scope content (w.outages 0) with e | kept
      · exact Quiet.bind (Quiet.fail _) fun _ => Quiet.emit _
      · exact Quiet.bind (Quiet.modify fun _ => rfl) fun _ => Quiet.emit _

lemma digest_quiet (i : Nat) (r : Http.Response) (context : Context) :
    Quiet (l.digest i r context) := by
  refine (Quiet.publish _ _).bind fun _ => (l.process_quiet _ _).bind fun context => ?_
  refine (l.writeCheckpoint_quiet _).bind fun _ => (Quiet.emit _).bind fun _ => ?_
  refine Quiet.get_bind fun w => (Quiet.say _).bind fun _ => ?_
  exact (Quiet.attempt _).bind fun _ => Quiet.pure _

/-- **A round from its answer on**, if there is one. -/
lemma receive_quiet (i : Nat) {answer : Answer} (h : answer ≠ .silence) (context : Context) :
    Quiet (l.receive i answer context) := by
  cases answer with
  | silence => exact absurd rfl h
  | refusal e =>
      simp only [receive]
      split_ifs
      · exact Quiet.pure _
      · exact Quiet.fail _
  | response r =>
      simp only [receive]
      split_ifs
      · exact Quiet.pure _
      · exact (l.digest_quiet i r context).bind fun _ => Quiet.pure _

end Loop

/-! ## Stages and children -/

/-- **Stages that are no requests.** -/
lemma Stage.perform_quiet {stage : Stage} (h : Stage.requests [stage] = []) (token : Token)
    (context : Context) : Quiet (stage.perform token context) := by
  cases stage with
  | http request => cases h
  | split s => exact Quiet.attempt _
  | process p =>
      refine Quiet.get_bind fun w => (Quiet.say _).bind fun _ => ?_
      rcases (p.run w.functions context).outcome with e | _ | outputs
      · exact Quiet.fail e
      · exact (Quiet.emit _).bind fun _ => Quiet.pure _
      · exact Quiet.pure _

namespace Forks

/-- **The end of a job.** -/
lemma finish_quiet (f : Forks) (outcome : String) : Quiet (f.finish outcome) := by
  rw [finish]
  split_ifs
  · exact Quiet.pure _
  · refine (Quiet.checkStop _).bind fun _ => (Quiet.emit _).bind fun _ => ?_
    exact (Quiet.publish _ _).bind fun _ => Quiet.pure _

/-- To take a child sends nothing. -/
lemma next_quiet (f : Forks) : Quiet f.next := by
  have ending (outcome : String) : Quiet (do return (none, ← f.finish outcome) :
      Work (Option ForkingJob × Forks)) :=
    (f.finish_quiet outcome).bind fun _ => Quiet.pure _
  rw [next]
  split_ifs
  · exact Quiet.pure _
  · exact ending _
  · refine (Quiet.checkStop _).bind fun stop => ?_
    cases stop with
    | true => exact ending _
    | false =>
        rcases f.outputs with _ | ⟨context, outputs⟩
        · exact ending _
        · exact (Quiet.emit _).bind fun _ => Quiet.pure _

lemma childrenFrom_quiet (n : Nat) (f : Forks) : Quiet (f.childrenFrom n) := by
  induction n generalizing f with
  | zero => exact Quiet.pure _
  | succ n ih =>
      refine f.next_quiet.bind fun x => ?_
      rcases x with ⟨_ | child, g⟩
      · exact Quiet.pure _
      · exact (ih g).bind fun _ => Quiet.pure _

end Forks

/-! ## Around a job -/

namespace Scheduler

variable (s : Scheduler)

lemma queueLate_quiet (st : SchedulerState) : Quiet (s.queueLate st) := by
  refine Quiet.get_bind fun w => ?_
  rcases s.late with _ | job
  · exact Quiet.pure _
  · rcases w.rung with _ | states
    · exact Quiet.pure _
    · dsimp only
      split_ifs <;> exact Quiet.pure _

lemma relayTo_quiet (job : Option Token) : Quiet (s.relayTo job) := Quiet.modify fun _ => rfl

/-- **What a job leaves is taken up.** -/
lemma collect_quiet (forks : Forks) (st : SchedulerState) : Quiet (collect forks st) := by
  rw [collect, Forks.takeOutputs]
  split_ifs
  · refine Quiet.bind ?_ fun _ => Quiet.pure _
    exact ((forks.finish_quiet _).map _).bind fun _ => Quiet.pure _
  · exact (forks.childrenFrom_quiet _).bind fun _ => Quiet.pure _

end Scheduler

end Connector
