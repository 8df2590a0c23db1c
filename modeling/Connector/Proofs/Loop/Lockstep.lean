import Connector.Proofs.Loop.Tandem

/-!
# Loops in lockstep

Two loops of the same request keep step if they look for a stop with the same success and get the
same answers to the same requests.  This file puts the parts of a round together for every such
pair of loops; what the parts need of the two worlds is a congruence.

* `Lockstep` — a congruence that looking for a stop and sending a request keep as well.
* `Loop.Interchangeable` — contexts in which a request makes no difference.
* `Loop.round_lockstep` — one round of both loops.
* **`Loop.rounds_lockstep`** — all rounds, by recursion on the answers still to come.
-/

namespace Connector

open Work

/-- **A relation between worlds in which two loops keep step.** -/
structure Lockstep (R : World → World → Prop) (E : Event → Event → Prop)
    (S : String → String → Prop) (t t' : Token) : Prop extends Congruence R E S t t' where
  looks : Tandem R Eq (checkStop t) (checkStop t')
  sends (request : Http.Request) (answer : Option Answer) :
    Tandem R Eq (Loop.send request answer) (Loop.send request answer)

/-- **Two results of a loop that are alike**: the contexts may differ, as they did at the start,
only as long as no response was stored. -/
structure LoopResult.Alike (C : Context → Context → Prop) (r r' : LoopResult) : Prop where
  outcome : r.outcome = r'.outcome
  pages : r.pages = r'.pages
  start : r'.pages = [] → C r.context r'.context
  later : r'.pages ≠ [] → r.context = r'.context

namespace LoopResult.Alike

variable {C : Context → Context → Prop} {c c' : Context}

lemma ended (outcome : LoopOutcome) (hc : C c c') :
    LoopResult.Alike C ⟨outcome, c, []⟩ ⟨outcome, c', []⟩ :=
  ⟨rfl, rfl, fun _ => hc, fun h => absurd rfl h⟩

lemma last (context : Context) : LoopResult.Alike C ⟨.stopConditionMet, context, [context]⟩
    ⟨.stopConditionMet, context, [context]⟩ :=
  ⟨rfl, rfl, fun h => (List.cons_ne_nil _ _ h).elim, fun _ => rfl⟩

/-- Where the contexts were the same at the start they are the same in the end. -/
lemma eq {r r' : LoopResult} (h : LoopResult.Alike Eq r r') : r = r' := by
  have context : r.context = r'.context := by
    by_cases none : r'.pages = []
    · exact h.start none
    · exact h.later none
  cases r
  cases r'
  cases h.outcome
  cases h.pages
  cases context
  rfl

lemma withPage {r r' : LoopResult} (context : Context) (h : LoopResult.Alike Eq r r') :
    LoopResult.Alike C (r.withPage context) (r'.withPage context) :=
  ⟨h.outcome, congrArg (context :: ·) h.pages, fun e => (List.cons_ne_nil _ _ e).elim,
    fun _ => h.eq ▸ rfl⟩

end LoopResult.Alike

namespace Loop

/-- **Contexts in which a request makes no difference** before the next response is stored, in
worlds that `R` relates. -/
structure Interchangeable (R : World → World → Prop) (S : String → String → Prop)
    (request : Request) (C : Context → Context → Prop) : Prop where
  render {c c' : Context} : C c c' → render request.options c = render request.options c'
  before {c c' : Context} {w u : World} : C c c' → R w u → Processor.Alike C S
    (request.before.run w.functions c) (request.before.run u.functions c')
  insert {c c' : Context} : C c c' →
    ∀ v, Record.insert responseKey v c = Record.insert responseKey v c'

variable {R : World → World → Prop} {E : Event → Event → Prop} {S : String → String → Prop}
  {l : Loop} {t t' : Token} {C : Context → Context → Prop} {c c' : Context}

lemma Interchangeable.refl (hR : Congruence R E S t t') (request : Request) :
    Interchangeable R S request Eq where
  render h := h ▸ rfl
  before := by
    rintro c _ w u rfl hr
    rw [hR.functions hr]
    exact Processor.Alike.refl (fun _ => rfl) hR.sameText _
  insert h _ := h ▸ rfl

/-- **One round of both loops.** -/
lemma round_lockstep (hR : Lockstep R E S l.token t) (hC : Interchangeable R S l.request C)
    (hc : C c c') {i i' : Nat}
    (hi : ∀ context, E (.iterationCompleted l.job i context) (.iterationCompleted l.job i' context))
    (answer : Option Answer) :
    Tandem R (Round.Alike C) (l.round i answer c) ((l.withToken t).round i' answer c') := by
  rw [round_eq, round_eq]
  refine Tandem.bind (ready_tandem hR.toCongruence (hC.render hc) fun w u => hC.before hc) ?_
  rintro ⟨request, d⟩ ⟨_, d'⟩ ⟨rfl, hd⟩
  refine Tandem.bind hR.looks ?_
  rintro stop _ rfl
  cases stop with
  | true => exact Tandem.pure (.ended _ hd)
  | false =>
      refine Tandem.bind (hR.sends request answer) ?_
      rintro reply _ rfl
      exact receive_tandem hR.toCongruence hi hd (hC.insert hd) reply

/-- **All rounds of both loops**, by recursion on the answers still to come.  After the first
response the contexts are the same. -/
theorem rounds_lockstep (hR : Lockstep R E S l.token t) (answers : List Answer)
    (hC : Interchangeable R S l.request C) (hc : C c c') (n n' : Nat)
    (hn : ∀ k context, E (.iterationCompleted l.job (n + k) context)
      (.iterationCompleted l.job (n' + k) context)) :
    Tandem R (LoopResult.Alike C) (l.rounds answers n c)
      ((l.withToken t).rounds answers n' c') := by
  induction answers generalizing C c c' n n' with
  | nil =>
      refine Tandem.bind (round_lockstep hR hC hc (hn 1) none) ?_
      rintro _ _ (⟨outcome, hd⟩ | ⟨d, last⟩)
      · exact Tandem.pure (.ended outcome hd)
      · exact Tandem.pure (.last d)
  | cons answer rest ih =>
      refine Tandem.bind (round_lockstep hR hC hc (hn 1) (some answer)) ?_
      rintro _ _ (⟨outcome, hd⟩ | ⟨d, _ | _⟩)
      · exact Tandem.pure (.ended outcome hd)
      · refine Tandem.bind (hR.publish_tandem .repeating) fun _ _ _ => ?_
        have later (k : Nat) (context : Json) : E (.iterationCompleted l.job (n + 1 + k) context)
            (.iterationCompleted l.job (n' + 1 + k) context) := by
          rw [Nat.add_assoc, Nat.add_assoc]
          exact hn (1 + k) context
        refine Tandem.bind (ih (.refl hR.toCongruence l.request) rfl (n + 1) (n' + 1) later) ?_
        exact fun r r' hr => Tandem.pure (hr.withPage d)
      · exact Tandem.pure (.last d)

end Loop

end Connector
