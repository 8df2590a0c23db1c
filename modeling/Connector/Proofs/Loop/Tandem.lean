import Connector.Proofs.Loop.Progress

/-!
# Two loops side by side

Two loops of the same request run in worlds of their own.  As long as their contexts agree where
it matters, both do the same: this file has that for every part of a round, for any relation
between the two worlds that telling, showing, printing and writing keep.

* `Congruence` — what is asked of the relation between the worlds.
* `Processor.Alike` — two runs of a processor that end alike.
* `Loop.ready_tandem`, `Loop.receive_tandem` — what comes before a request is sent, and what comes
  after its answer.
-/

namespace Connector

open Work

namespace World

/-- **No stop reaches a token**, now or later. -/
structure Undisturbed (t : Token) (w : World) : Prop where
  notStopped : w.isStopRequested t = false
  interrupts : w.interrupts = []
  alarm : w.alarm = none
  relay : w.relay = none

/-- Where no stop is to come in, there is none to hear of. -/
lemma look_of_no_interrupts {w : World} (h : w.interrupts = []) : w.look = w := by
  cases w
  simp_all [look]

/-- Where nothing is to come in, an exchange takes an answer and no more. -/
lemma Undisturbed.exchange_eq {t : Token} {w : World} (h : w.Undisturbed t) (r : Http.Request) :
    w.exchange r = { w.count r with answers := w.answers.drop 1 } := by
  simp [exchange, arrive, count, ring, passOn, h.alarm, h.relay]

/-- Nothing comes in later either. -/
lemma Undisturbed.exchange {t : Token} {w : World} (h : w.Undisturbed t) (r : Http.Request) :
    (w.exchange r).Undisturbed t := by
  rw [h.exchange_eq]
  exact ⟨h.notStopped, h.interrupts, h.alarm, h.relay⟩

end World

/-- **A relation between worlds that the steps of two loops keep.**  `E` relates what the loops
tell, `S` what they print; `t` and `t'` are the tokens that show their states. -/
structure Congruence (R : World → World → Prop) (E : Event → Event → Prop)
    (S : String → String → Prop) (t t' : Token) : Prop where
  functions {w u : World} : R w u → w.functions = u.functions
  store {w u : World} : R w u → w.store = u.store
  outages {w u : World} : R w u → w.outages = u.outages
  tell {w u : World} {e e' : Event} : E e e' → R w u → R (w.tell e) (u.tell e')
  print {w u : World} {s s' : String} : S s s' → R w u → R (w.print s) (u.print s')
  display {w u : World} (s : JobState) : R w u → R (w.display t s) (u.display t' s)
  keep {w u : World} (s : Store) : R w u → R (w.keep s) (u.keep s)
  sameEvent (e : Event) : E e e
  sameText (s : String) : S s s

namespace Congruence

variable {R : World → World → Prop} {E : Event → Event → Prop} {S : String → String → Prop}
  {t t' : Token}

/-- Events that may stand for each other are told on both sides. -/
lemma emit_tandem (hR : Congruence R E S t t') {e e' : Event} (he : E e e') :
    Tandem R (fun _ _ => True) (emit e) (emit e') :=
  Tandem.modify fun _ _ => hR.tell he

lemma say_tandem (hR : Congruence R E S t t') {s s' : String} (hs : S s s') :
    Tandem R (fun _ _ => True) (say s) (say s') :=
  Tandem.modify fun _ _ => hR.print hs

lemma publish_tandem (hR : Congruence R E S t t') (s : JobState) :
    Tandem R (fun _ _ => True) (publish t s) (publish t' s) :=
  Tandem.modify fun _ _ => hR.display s

end Congruence

/-- **Two runs of a processor that end alike**, with contexts that `C` relates. -/
inductive Processor.Alike (C : Context → Context → Prop) (S : String → String → Prop) :
    Result → Result → Prop where
  | failed {e : RunError} {c c' : Context} {s s' : String} (hs : S s s') :
      Alike C S ⟨.error e, c, s⟩ ⟨.error e, c', s'⟩
  | skipped {c c' : Context} {s s' : String} (hc : C c c') (hs : S s s') :
      Alike C S ⟨.ok .skipped, c, s⟩ ⟨.ok .skipped, c', s'⟩
  | ran {o o' c c' : Context} {s s' : String} (hc : C c c') (hs : S s s') :
      Alike C S ⟨.ok (.ran o), c, s⟩ ⟨.ok (.ran o'), c', s'⟩

lemma Processor.Alike.refl {C : Context → Context → Prop} {S : String → String → Prop}
    (hc : ∀ c, C c c) (hs : ∀ s, S s s) (r : Result) : Alike C S r r := by
  rcases r with ⟨e | _ | o, c, s⟩
  · exact .failed (hs s)
  · exact .skipped (hc c) (hs s)
  · exact .ran (hc c) (hs s)

namespace Loop

/-- The loop of the same request under another token. -/
def withToken (l : Loop) (t : Token) : Loop := { l with token := t }

/-- **Two rounds that end alike.**  After a response the contexts are the same. -/
inductive Round.Alike (C : Context → Context → Prop) : Round → Round → Prop where
  | ended (outcome : LoopOutcome) {c c' : Context} (hc : C c c') :
      Alike C (.ended outcome c) (.ended outcome c')
  | page (c : Context) (last : Bool) : Alike C (.page c last) (.page c last)

variable {l : Loop} {t : Token} {R : World → World → Prop} {E : Event → Event → Prop}
  {S : String → String → Prop} {C : Context → Context → Prop} {c c' : Context}

/-- A processor that comes to alike results is run on both sides. -/
lemma process_tandem (hR : Congruence R E S l.token t) {p : Processor}
    (hp : ∀ w u, R w u → Processor.Alike C S (p.run w.functions c) (p.run u.functions c')) :
    Tandem R C (l.process p c) ((l.withToken t).process p c') := by
  refine Tandem.bind_get fun w u hr => ?_
  have ends := hp w u hr
  revert ends
  generalize p.run w.functions c = r
  generalize p.run u.functions c' = r'
  intro ends
  cases ends with
  | failed hs => exact Tandem.bind (hR.say_tandem hs) (fun _ _ _ => Tandem.fail _) w u hr
  | skipped hc hs =>
      refine Tandem.bind (hR.say_tandem hs) (fun _ _ _ => ?_) w u hr
      exact Tandem.bind (hR.emit_tandem (hR.sameEvent _)) fun _ _ _ => Tandem.pure hc
  | ran hc hs => exact Tandem.bind (hR.say_tandem hs) (fun _ _ _ => Tandem.pure hc) w u hr

/-- A processor in the same context comes to the same on both sides. -/
lemma process_tandem_same (hR : Congruence R E S l.token t) (p : Processor) :
    Tandem R Eq (l.process p c) ((l.withToken t).process p c) := by
  refine process_tandem hR fun w u hr => ?_
  rw [hR.functions hr]
  exact Processor.Alike.refl (fun _ => rfl) hR.sameText _

/-- **Making a request ready**, in contexts in which it is rendered alike and in which the first
processor ends alike. -/
lemma ready_tandem (hR : Congruence R E S l.token t)
    (ho : render l.request.options c = render l.request.options c')
    (hp : ∀ w u, R w u →
      Processor.Alike C S (l.request.before.run w.functions c)
        (l.request.before.run u.functions c')) :
    Tandem R (fun x y => x.1 = y.1 ∧ C x.2 y.2) (l.ready c) ((l.withToken t).ready c') := by
  refine Tandem.bind (hR.publish_tandem _) fun _ _ _ => ?_
  have rendered : Tandem R Eq (attempt (render l.request.options c))
      (attempt (render (l.withToken t).request.options c')) := by
    show Tandem R Eq _ (attempt (render l.request.options c'))
    rw [ho]
    exact Tandem.attempt _
  refine Tandem.bind rendered ?_
  rintro request _ rfl
  refine Tandem.bind (hR.publish_tandem _) fun _ _ _ => ?_
  exact Tandem.bind (process_tandem hR hp) fun _ _ hc => Tandem.pure ⟨rfl, hc⟩

lemma ready_tandem_same (hR : Congruence R E S l.token t) (c : Context) :
    Tandem R Eq (l.ready c) ((l.withToken t).ready c) := by
  refine Tandem.mono (ready_tandem hR rfl fun w u hr => ?_) fun _ _ h => Prod.ext h.1 h.2
  rw [hR.functions hr]
  exact Processor.Alike.refl (fun _ => rfl) hR.sameText _

/-- A checkpoint in the same context is written on both sides. -/
lemma writeCheckpoint_tandem (hR : Congruence R E S l.token t) (c : Context) :
    Tandem R (fun _ _ => True) (l.writeCheckpoint c) ((l.withToken t).writeCheckpoint c) := by
  have request : (l.withToken t).request = l.request := rfl
  simp only [writeCheckpoint, request]
  rcases l.request.checkpoint with _ | checkpoint
  · exact Tandem.pure trivial
  · refine Tandem.bind (Tandem.attempt _) ?_
    rintro scope _ rfl
    refine Tandem.bind (Tandem.attempt _) ?_
    rintro content _ rfl
    refine Tandem.bind_get fun w u hr => ?_
    rw [← hR.store hr, ← hR.outages hr]
    rcases w.store with _ | store
    · exact hR.emit_tandem (hR.sameEvent _) w u hr
    · dsimp only
      rcases store.set scope content (w.outages 0) with e | kept
      · exact Tandem.bind (P := fun _ _ => True) (Tandem.fail _)
          (fun _ _ _ => hR.emit_tandem (hR.sameEvent _)) w u hr
      · exact Tandem.bind (Tandem.modify fun _ _ => hR.keep kept)
          (fun _ _ _ => hR.emit_tandem (hR.sameEvent _)) w u hr

/-- **What comes after a response**, in contexts that are the same once the response is stored.
The numbers of the responses may differ where that is not seen. -/
lemma digest_tandem (hR : Congruence R E S l.token t) {i i' : Nat} {r : Http.Response}
    (hi : ∀ context, E (.iterationCompleted l.job i context) (.iterationCompleted l.job i' context))
    (hc : Record.insert responseKey r.toJson c = Record.insert responseKey r.toJson c') :
    Tandem R Eq (l.digest i r c) ((l.withToken t).digest i' r c') := by
  rw [digest]
  refine Tandem.bind (hR.publish_tandem .processing) fun _ _ _ => ?_
  rw [← hc]
  refine Tandem.bind (process_tandem_same hR _) ?_
  rintro context _ rfl
  refine Tandem.bind (writeCheckpoint_tandem hR context) fun _ _ _ => ?_
  refine Tandem.bind (hR.emit_tandem (hi _)) fun _ _ _ => ?_
  refine Tandem.bind_get fun w u hr => ?_
  rw [← hR.functions hr]
  refine Tandem.bind (hR.say_tandem (hR.sameText _)) (fun _ _ _ => ?_) w u hr
  refine Tandem.bind (Tandem.attempt _) ?_
  rintro stop _ rfl
  exact Tandem.pure rfl

/-- **What comes after an answer.** -/
lemma receive_tandem (hR : Congruence R E S l.token t) {i i' : Nat}
    (hi : ∀ context, E (.iterationCompleted l.job i context) (.iterationCompleted l.job i' context))
    (hc : C c c') (hv : ∀ v, Record.insert responseKey v c = Record.insert responseKey v c')
    (answer : Answer) :
    Tandem R (Round.Alike C) (l.receive i answer c) ((l.withToken t).receive i' answer c') := by
  cases answer with
  | silence => exact Tandem.throw _
  | refusal e =>
      simp only [receive]
      split_ifs
      · exact Tandem.pure (.ended _ hc)
      · exact Tandem.fail _
  | response r =>
      simp only [receive]
      split_ifs
      · exact Tandem.pure (.ended _ hc)
      · refine Tandem.bind (digest_tandem hR hi (hv _)) ?_
        rintro x _ rfl
        exact Tandem.pure (.page _ _)

end Loop

end Connector
