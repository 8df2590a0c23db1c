import Connector.Job.Loop
import Connector.Proofs.Work

/-!
# The errors of a loop

What is wrong with a definition is found when it is loaded.  A loop that has been loaded may still
fail in many ways, but it never says that the configuration is wrong.

* `RunError.OfRun` — an error that is not about the configuration.
* `Blameless` — a result that is no error about the configuration.
* `Call.perform_blameless`, `Processor.run_blameless`, `Loop.render_blameless` — calls, processors
  and templates.
* **`Loop.run_failsBy`** — whole loops, from their parts.
-/

namespace Connector

open Work

/-- Whether an error says that the configuration is wrong. -/
def RunError.isConfig : RunError → Bool
  | .config _ => true
  | .template _ | .functionNotFound _ | .call _ _ _ | .http _ | .store _ => false

/-- **An error that only a run can show.** -/
def RunError.OfRun (e : RunError) : Prop := e.isConfig = false

/-- **A result that does not blame the configuration.** -/
def Blameless {α : Type} (r : Except RunError α) : Prop := ∀ e, r = .error e → e.OfRun

namespace Blameless

variable {ε α β : Type}

protected lemma ok (a : α) : Blameless (.ok a) := nofun

protected lemma error {e : RunError} (h : e.OfRun) : Blameless (.error e : Except RunError α) := by
  rintro _ ⟨⟩
  exact h

/-- A result is blameless if every error of it is made into one of a run. -/
protected lemma mapError (r : Except ε α) {f : ε → RunError} (h : ∀ e, (f e).OfRun) :
    Blameless (r.mapError f) := by
  rcases r with e | a
  · exact Blameless.error (h e)
  · exact Blameless.ok a

protected lemma map {r : Except RunError α} (h : Blameless r) (f : α → β) :
    Blameless (r.map f) := by
  rcases r with e | a
  · exact Blameless.error (h e rfl)
  · exact Blameless.ok (f a)

protected lemma bind {r : Except RunError α} {f : α → Except RunError β} (hr : Blameless r)
    (hf : ∀ a, Blameless (f a)) : Blameless (r >>= f) := by
  rcases r with e | a
  · exact Blameless.error (hr e rfl)
  · exact hf a

end Blameless

/-! ## Calls and templates -/

/-- A call fails for want of a function or in the function, but not by its configuration. -/
lemma Call.perform_blameless (c : Call) (output : Option String) (functions : Registry)
    (context : Context) : Blameless (c.perform output functions context) := by
  rw [perform]
  rcases renderAll context c.inputs with e | inputs
  · exact Blameless.error rfl
  · dsimp only
    rcases functions.resolve? c.function with _ | f
    · exact Blameless.error rfl
    · exact Blameless.mapError _ fun _ => rfl

lemma Gate.passes_blameless (functions : Registry) (context : Context) (gate : Gate) :
    Blameless (gate.passes functions context).1 := by
  induction gate with
  | nil => exact Blameless.ok _
  | cons c rest ih =>
      have evaluated : Blameless (c.evaluate functions context) :=
        c.call.perform_blameless none functions context
      rw [passes]
      rcases he : c.evaluate functions context with e | reply
      · exact Blameless.error (evaluated e he)
      · dsimp only
        split_ifs
        · exact ih
        · exact Blameless.ok _

/-- Whether to stop is a gate as well. -/
lemma Repetition.shouldStop_blameless (r : Repetition) (functions : Registry) (context : Context) :
    Blameless (r.shouldStop functions context).1 := by
  rw [shouldStop]
  split_ifs
  · exact Blameless.ok _
  · exact r.stopGate.passes_blameless functions context

namespace Processor

lemma runTasks_blameless (functions : Registry) (tasks : List Task) (context outputs : Context) :
    Blameless (runTasks functions tasks context outputs).outcome := by
  induction tasks generalizing context outputs with
  | nil => exact Blameless.ok _
  | cons t rest ih =>
      have performed : Blameless (t.perform functions context) :=
        t.call.perform_blameless t.output functions context
      rw [runTasks]
      rcases he : t.perform functions context with e | reply
      · exact Blameless.error (performed e he)
      · exact ih _ _

/-- A processor fails in its gate or in its tasks. -/
lemma run_blameless (p : Processor) (functions : Registry) (context : Context) :
    Blameless (p.run functions context).outcome := by
  have passed := p.gate.passes_blameless functions context
  rw [run]
  rcases hp : p.gate.passes functions context with ⟨e | _ | _, printed⟩
  · exact Blameless.error (passed e (congrArg Prod.fst hp))
  · exact Blameless.ok _
  · exact runTasks_blameless functions p.pipeline context []

end Processor

lemma Options.authorize_blameless (o : Options) (context : Context) (headers : Record String) :
    Blameless (o.authorize context headers) := by
  rw [authorize]
  rcases o.credentials with _ | c
  · exact Blameless.ok _
  · exact Blameless.bind (Blameless.mapError _ fun _ => rfl) fun _ =>
      Blameless.bind (Blameless.mapError _ fun _ => rfl) fun _ => Blameless.ok _

lemma renderTexts_blameless (ts : Record Template) (context : Context) :
    Blameless (renderTexts ts context) := by
  have rendered : Blameless ((ts.mapValuesM (Template.renderText · context)).mapError .template) :=
    Blameless.mapError _ fun _ => rfl
  exact rendered.map _

lemma renderValues_blameless (ts : Record Template) (context : Context) :
    Blameless (renderValues ts context) := by
  have rendered : Blameless ((ts.mapValuesM (Template.render · context)).mapError .template) :=
    Blameless.mapError _ fun _ => rfl
  exact rendered.map _

/-- A request that cannot be rendered fails as a template. -/
lemma Loop.render_blameless (o : Options) (context : Context) : Blameless (render o context) := by
  refine Blameless.bind (Blameless.mapError _ fun _ => rfl) fun url => ?_
  refine Blameless.bind (renderTexts_blameless _ _) fun headers => ?_
  refine Blameless.bind (renderValues_blameless _ _) fun body => ?_
  exact Blameless.bind (o.authorize_blameless context headers) fun _ => Blameless.ok _

/-! ## Loops -/

namespace Loop

/-- A processor of a loop fails as it does by itself. -/
lemma process_failsBy (l : Loop) (p : Processor) (context : Context) :
    FailsBy (l.process p context) RunError.OfRun := by
  refine FailsBy.get_bind fun w => FailsBy.bind (FailsBy.modify _) fun _ => ?_
  have ran := p.run_blameless w.functions context
  rcases he : (p.run w.functions context).outcome with e | _ | outputs
  · exact FailsBy.fail (ran e he)
  · exact FailsBy.bind (FailsBy.modify _) fun _ => FailsBy.pure _
  · exact FailsBy.pure _

/-- A loop that resumes fails as a template or with the store. -/
lemma resume_failsBy (l : Loop) (context : Context) :
    FailsBy (l.resume context) RunError.OfRun := by
  refine FailsBy.get_bind fun w => ?_
  rcases l.request.checkpoint with _ | checkpoint
  · exact FailsBy.pure _
  · rcases w.store with _ | store
    · exact FailsBy.pure _
    · have rendered : Blameless (checkpoint.renderScope context) :=
        Blameless.mapError _ fun _ => rfl
      dsimp only
      rcases he : checkpoint.renderScope context with e | scope
      · dsimp only
        split_ifs
        · exact FailsBy.pure _
        · exact FailsBy.fail (rendered e he)
      · dsimp only
        rcases store.get scope (w.outages 0) with e | _ | saved
        · exact FailsBy.fail rfl
        · exact FailsBy.pure _
        · exact FailsBy.pure _

/-- Before its request a loop fails in a processor or as a template. -/
lemma prepare_failsBy (l : Loop) (context : Context) :
    FailsBy (l.prepare context) RunError.OfRun := by
  have ready : FailsBy (l.ready context) RunError.OfRun := by
    refine FailsBy.bind (FailsBy.modify _) fun _ => ?_
    refine FailsBy.bind (FailsBy.attempt (render_blameless _ _)) fun request => ?_
    refine FailsBy.bind (FailsBy.modify _) fun _ => ?_
    exact FailsBy.bind (l.process_failsBy _ _) fun _ => FailsBy.pure _
  refine FailsBy.bind ready fun x => FailsBy.bind (FailsBy.checkStop _) fun stop => ?_
  cases stop <;> exact FailsBy.pure _

/-- A checkpoint fails as a template or with the store. -/
lemma writeCheckpoint_failsBy (l : Loop) (context : Context) :
    FailsBy (l.writeCheckpoint context) RunError.OfRun := by
  rw [writeCheckpoint]
  rcases l.request.checkpoint with _ | checkpoint
  · exact FailsBy.pure _
  · refine FailsBy.bind (FailsBy.attempt (Blameless.mapError _ fun _ => rfl)) fun scope => ?_
    refine FailsBy.bind (FailsBy.attempt (renderValues_blameless _ _)) fun content => ?_
    refine FailsBy.get_bind fun w => ?_
    rcases w.store with _ | store
    · exact FailsBy.modify _
    · dsimp only
      rcases store.set scope content (w.outages 0) with e | kept
      · exact FailsBy.bind (FailsBy.fail rfl) fun _ => FailsBy.modify _
      · exact FailsBy.bind (FailsBy.modify _) fun _ => FailsBy.modify _

/-- After a response a loop fails in a processor or with its checkpoint. -/
lemma digest_failsBy (l : Loop) (i : Nat) (r : Http.Response) (context : Context) :
    FailsBy (l.digest i r context) RunError.OfRun := by
  refine FailsBy.bind (FailsBy.modify _) fun _ => ?_
  refine FailsBy.bind (l.process_failsBy _ _) fun c => ?_
  refine FailsBy.bind (l.writeCheckpoint_failsBy c) fun _ => ?_
  refine FailsBy.bind (FailsBy.modify _) fun _ => FailsBy.get_bind fun w => ?_
  refine FailsBy.bind (FailsBy.modify _) fun _ => ?_
  exact FailsBy.bind (FailsBy.attempt (Repetition.shouldStop_blameless _ _ _)) fun _ =>
    FailsBy.pure _

/-- An answer is an error of its own, or its response fails to be dealt with. -/
lemma receive_failsBy (l : Loop) (i : Nat) (answer : Answer) (context : Context) :
    FailsBy (l.receive i answer context) RunError.OfRun := by
  cases answer with
  | silence => exact FailsBy.hung
  | refusal e =>
      simp only [receive]
      split_ifs
      · exact FailsBy.pure _
      · exact FailsBy.fail rfl
  | response r =>
      simp only [receive]
      split_ifs
      · exact FailsBy.pure _
      · exact FailsBy.bind (l.digest_failsBy _ _ _) fun _ => FailsBy.pure _

lemma send_failsBy (request : Http.Request) (answer : Option Answer) :
    FailsBy (send request answer) RunError.OfRun := by
  refine FailsBy.get_bind fun w => ?_
  rcases w.network
  · exact FailsBy.bind (FailsBy.modify _) fun _ => FailsBy.pure _
  · rcases request.refusal? with _ | e
    · exact FailsBy.pure _
    · exact FailsBy.pure _

/-- A round fails before its request or after the answer. -/
lemma round_failsBy (l : Loop) (i : Nat) (answer : Option Answer) (context : Context) :
    FailsBy (l.round i answer context) RunError.OfRun := by
  refine FailsBy.bind (l.prepare_failsBy context) fun x => ?_
  rcases x with ⟨_ | request, c⟩
  · exact FailsBy.pure _
  · exact FailsBy.bind (send_failsBy request answer) fun answer => l.receive_failsBy i answer c

/-- Rounds fail as one of them does, by induction on the answers. -/
lemma rounds_failsBy (l : Loop) : ∀ (answers : List Answer) (n : Nat) (context : Context),
    FailsBy (l.rounds answers n context) RunError.OfRun
  | [], n, context => by
      refine FailsBy.bind (l.round_failsBy _ _ _) fun r => ?_
      cases r <;> exact FailsBy.pure _
  | answer :: rest, n, context => by
      refine FailsBy.bind (l.round_failsBy _ _ _) fun r => ?_
      rcases r with ⟨outcome, c⟩ | ⟨c, _ | _⟩
      · exact FailsBy.pure _
      · refine FailsBy.bind (FailsBy.modify _) fun _ => ?_
        exact FailsBy.bind (rounds_failsBy l rest _ _) fun _ => FailsBy.pure _
      · exact FailsBy.pure _

/-- **No loop blames the configuration.** -/
theorem run_failsBy (l : Loop) (context : Context) :
    FailsBy (l.run context) RunError.OfRun :=
  FailsBy.bind (l.resume_failsBy context) fun c =>
    FailsBy.get_bind fun w => l.rounds_failsBy w.answers 0 c

end Loop

end Connector
