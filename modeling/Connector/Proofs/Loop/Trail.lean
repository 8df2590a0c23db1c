import Connector.Job.Request
import Connector.Proofs.Load
import Connector.Proofs.Work
import Mathlib.Data.List.Forall2

/-!
# What a request loop leaves in the logs

A loop goes round and round, and the four logs — events, requests, states, and the count of
responses — move on together.

* `Loop.PageLog` — the events of a whole round: notices of skipped processors, the checkpoint if
  the request has one, and the number of the response.
* `Loop.RoundTrail` — what one round leaves, for each of the ways in which it can end.
* `Loop.RoundsTrail` — what all rounds leave: whole rounds, and at most one that broke off.
* **`RequestJob.run_leaves`** — the logs of a request job, from its first event to its last.

Nothing is assumed about stops: they may come at any moment, or not at all.
-/

namespace Connector

open Work Work.Leaves

/-- How many requests go with `n` whole rounds: each whole round has one, and a loop that runs out
of data learns so from one more. -/
def LoopOutcome.Requests (outcome : LoopOutcome) (n sent : Nat) : Prop :=
  match outcome with
  | .stopConditionMet => sent = n ∧ 1 ≤ n
  | .cancelled => sent = n
  | .notFound | .emptyBody => sent = n + 1

/-- The context that is told of when a response was processed. -/
def Event.page? : Event → Option Json
  | .iterationCompleted _ _ context => some context
  | _ => none

/-- The contexts after the responses, as they were told. -/
def World.pages (w : World) : List Json := w.events.filterMap Event.page?

namespace Loop

variable {l : Loop}

/-- What a round tells of its processors when both are skipped. -/
def notices (l : Loop) : List Event :=
  [.processorSkipped l.job l.request.before.label, .processorSkipped l.job l.request.after.label]

/-- What a round tells of the checkpoint: one event exactly when the request has a checkpoint. -/
def Written (l : Loop) (log : List Event) : Prop :=
  match l.request.checkpoint with
  | none => log = []
  | some _ => ∃ scope content, log = [.checkpointWritten l.job scope content]

/-- **The events of a whole round**, the `i`-th of its loop. -/
inductive PageLog (l : Loop) (i : Nat) : List Event → Prop where
  | intro {skips written : List Event} (context : Json) (hs : skips.Sublist l.notices)
      (hw : l.Written written) :
      PageLog l i (skips ++ written ++ [.iterationCompleted l.job i context])

/-- A whole round tells of one response. -/
lemma PageLog.page {i : Nat} {log : List Event} (h : l.PageLog i log) :
    ∃ context, log.filterMap Event.page? = [context] := by
  cases h with
  | @intro skips written context hs hw =>
      have skipped : skips.filterMap Event.page? = [] := by
        have none : l.notices.filterMap Event.page? = [] := rfl
        exact List.sublist_nil.1 (none ▸ hs.filterMap Event.page?)
      have kept : written.filterMap Event.page? = [] := by
        rw [Written] at hw
        split at hw
        · rw [hw, List.filterMap_nil]
        · obtain ⟨scope, content, rfl⟩ := hw
          rfl
      exact ⟨context, by simp [skipped, kept, Event.page?]⟩

/-- The states of a whole round, in order. -/
def roundStates : List JobState := [.running, .processing, .processing, .repeating]

/-- States shown by the token of a loop. -/
def shown (l : Loop) (states : List JobState) : List (Token × JobState) :=
  states.map fun s => (l.token, s)

/-- **What one round leaves**, by how it ends. -/
inductive RoundTrail (l : Loop) (i : Nat) : Except Halt Round → Trail → Prop where
  | cancelled (context : Context) {skips : List Event} (hs : skips.Sublist l.notices) :
      RoundTrail l i (.ok (.ended .cancelled context))
        ⟨skips, [], l.shown [.running, .processing]⟩
  | outOfData (outcome : LoopOutcome) (context : Context) (request : Http.Request)
      {skips : List Event} (ho : outcome = .notFound ∨ outcome = .emptyBody)
      (hs : skips.Sublist l.notices) :
      RoundTrail l i (.ok (.ended outcome context))
        ⟨skips, [request], l.shown [.running, .processing]⟩
  | page (context : Context) (last : Bool) (request : Http.Request) {log : List Event}
      (hp : l.PageLog i log) :
      RoundTrail l i (.ok (.page context last))
        ⟨log, [request], l.shown [.running, .processing, .processing]⟩
  | broken (e : RunError) {skips : List Event} (sent : List Http.Request)
      (states : List JobState) (hs : skips.Sublist l.notices) (hl : sent.length ≤ 1)
      (hst : states <+: [.running, .processing, .processing]) :
      RoundTrail l i (.error (.failed e)) ⟨skips, sent, l.shown states⟩
  | brokenGate (e : RunError) (request : Http.Request) {log : List Event} (hp : l.PageLog i log) :
      RoundTrail l i (.error (.failed e))
        ⟨log, [request], l.shown [.running, .processing, .processing]⟩
  | hung (t : Trail) : RoundTrail l i (.error .hung) t

/-! ## The parts of a round -/

/-- A processor leaves nothing in the logs, or that it was skipped. -/
lemma process_leaves {p : Processor} {context : Context} {Q : Except Halt Context → Trail → Prop}
    (hskip : ∀ c, Q (.ok c) { events := [.processorSkipped l.job p.label] })
    (hran : ∀ c, Q (.ok c) .empty) (herr : ∀ e, Q (.error (.failed e)) .empty) :
    (l.process p context).Leaves Q := by
  refine Leaves.get_bind fun w => Leaves.say_bind ?_
  rcases (p.run w.functions context).outcome with e | _ | outputs
  · exact Leaves.fail (herr e)
  · exact Leaves.emit_bind (Leaves.pure (hskip _))
  · exact Leaves.pure (hran _)

lemma resume_leaves {context : Context} {Q : Except Halt Context → Trail → Prop}
    (hok : ∀ c, Q (.ok c) .empty) (herr : ∀ e, Q (.error (.failed e)) .empty) :
    (l.resume context).Leaves Q := by
  refine Leaves.get_bind fun w => ?_
  split
  · split
    · split
      · exact Leaves.pure (hok _)
      · exact Leaves.fail (herr _)
    · split
      · exact Leaves.fail (herr _)
      · exact Leaves.pure (hok _)
      · exact Leaves.pure (hok _)
  · exact Leaves.pure (hok _)

/-- Everything before a request leaves two states, and whether the processor was skipped. -/
lemma ready_leaves {context : Context} {Q : Except Halt (Http.Request × Context) → Trail → Prop}
    (hok : ∀ x (skips : List Event),
      skips.Sublist [.processorSkipped l.job l.request.before.label] →
      Q (.ok x) ⟨skips, [], l.shown [.running, .processing]⟩)
    (herr : ∀ e states, states <+: [.running, .processing] →
      Q (.error (.failed e)) ⟨[], [], l.shown states⟩) :
    (l.ready context).Leaves Q := by
  refine Leaves.publish_bind (Leaves.attempt_bind (fun request => ?_) fun e => ?_)
  · refine Leaves.publish_bind (Leaves.bind ?_)
    refine process_leaves (fun c => ?_) (fun c => ?_) fun e => ?_
    · exact Then.ok (Leaves.pure (hok (request, c) _ (List.Sublist.refl _)))
    · exact Then.ok (Leaves.pure (hok (request, c) _ (List.nil_sublist _)))
    · exact herr e [.running, .processing] (List.prefix_refl _)
  · exact herr e [.running] ⟨[.processing], rfl⟩

/-- A checkpoint that is written is told of. -/
lemma writeCheckpoint_leaves {context : Context} {Q : Except Halt Unit → Trail → Prop}
    (hok : ∀ written, l.Written written → Q (.ok ()) { events := written })
    (herr : ∀ e, Q (.error (.failed e)) .empty) : (l.writeCheckpoint context).Leaves Q := by
  rw [writeCheckpoint]
  rcases hc : l.request.checkpoint with _ | checkpoint
  · exact Leaves.pure (hok [] (by simp [Written, hc]))
  · refine Leaves.attempt_bind (fun scope => ?_) herr
    refine Leaves.attempt_bind (fun content => ?_) herr
    have told : (emit (.checkpointWritten l.job scope (.obj content))).Leaves Q :=
      fun w => ⟨_, World.trail_tell _ w, hok _ (by simp [Written, hc])⟩
    refine Leaves.get_bind fun w => ?_
    split
    · exact told
    · split
      · exact Leaves.fail (herr _)
      · exact Leaves.modify_bind (t := .empty) (fun _ => by simp) (by simpa using told)

/-- Everything after a response leaves the page at last, unless it fails before. -/
lemma digest_leaves {i : Nat} {response : Http.Response} {context : Context}
    {Q : Except Halt (Context × Bool) → Trail → Prop}
    (hok : ∀ x (skips written : List Event) json,
      skips.Sublist [.processorSkipped l.job l.request.after.label] → l.Written written →
      Q (.ok x) ⟨skips ++ written ++ [.iterationCompleted l.job i json], [], l.shown [.processing]⟩)
    (hgate : ∀ e (skips written : List Event) json,
      skips.Sublist [.processorSkipped l.job l.request.after.label] → l.Written written →
      Q (.error (.failed e))
        ⟨skips ++ written ++ [.iterationCompleted l.job i json], [], l.shown [.processing]⟩)
    (herr : ∀ e (skips : List Event),
      skips.Sublist [.processorSkipped l.job l.request.after.label] →
      Q (.error (.failed e)) ⟨skips, [], l.shown [.processing]⟩) :
    (l.digest i response context).Leaves Q := by
  -- what follows the processor, whose notices are already told
  have rest : ∀ c (skips : List Event),
      skips.Sublist [.processorSkipped l.job l.request.after.label] →
      (do
        l.writeCheckpoint c
        emit (.iterationCompleted l.job i (.obj c))
        let w ← get
        let gate := l.request.repetition.shouldStop w.functions c
        say gate.2
        let stop ← attempt gate.1
        return (c, stop) : Work (Context × Bool)).Leaves
        fun r u => Q r (⟨skips, [], l.shown [.processing]⟩ ++ u) := by
    intro c skips hs
    refine Leaves.bind (writeCheckpoint_leaves (fun written hw => Then.ok ?_) fun e => ?_)
    · refine Leaves.emit_bind (Leaves.get_bind fun w => Leaves.say_bind ?_)
      refine Leaves.attempt_bind (fun stop => Leaves.pure ?_) fun e => ?_
      · simpa using hok (c, stop) skips written (.obj c) hs hw
      · simpa using hgate e skips written (.obj c) hs hw
    · exact Then.error (by simpa using herr e skips hs)
  refine Leaves.publish_bind (Leaves.bind (process_leaves (fun c => ?_) (fun c => ?_) fun e => ?_))
  · exact Then.ok (rest c _ (List.Sublist.refl _))
  · exact Then.ok (rest c _ (List.nil_sublist _))
  · exact herr e _ (List.nil_sublist _)

/-- An answer ends the loop, fails, or leaves a page. -/
lemma receive_leaves {i : Nat} {answer : Answer} {context : Context}
    {Q : Except Halt Round → Trail → Prop}
    (hend : ∀ outcome c, outcome = .notFound ∨ outcome = .emptyBody →
      Q (.ok (.ended outcome c)) .empty)
    (hpage : ∀ c stop (skips written : List Event) json,
      skips.Sublist [.processorSkipped l.job l.request.after.label] → l.Written written →
      Q (.ok (.page c stop))
        ⟨skips ++ written ++ [.iterationCompleted l.job i json], [], l.shown [.processing]⟩)
    (hgate : ∀ e (skips written : List Event) json,
      skips.Sublist [.processorSkipped l.job l.request.after.label] → l.Written written →
      Q (.error (.failed e))
        ⟨skips ++ written ++ [.iterationCompleted l.job i json], [], l.shown [.processing]⟩)
    (herr : ∀ e (skips : List Event) states,
      skips.Sublist [.processorSkipped l.job l.request.after.label] → states <+: [.processing] →
      Q (.error (.failed e)) ⟨skips, [], l.shown states⟩)
    (hhung : Q (.error .hung) .empty) : (l.receive i answer context).Leaves Q := by
  cases answer with
  | silence => exact Leaves.throw hhung
  | refusal e =>
      simp only [receive]
      split_ifs with h
      · exact Leaves.pure (hend _ _ (.inl rfl))
      · exact Leaves.fail (herr _ [] [] (List.nil_sublist _) (List.nil_prefix))
  | response r =>
      simp only [receive]
      split_ifs with h
      · exact Leaves.pure (hend _ _ (.inr rfl))
      · refine Leaves.bind (digest_leaves (fun x skips written json hs hw => ?_)
          (fun e skips written json hs hw => ?_) fun e skips hs => ?_)
        · exact Then.ok (Leaves.pure (by simpa using hpage x.1 x.2 skips written json hs hw))
        · exact hgate e skips written json hs hw
        · exact herr e skips _ hs (List.prefix_refl _)

/-- A request that is refused before it is sent is not one that found nothing. -/
lemma not_notFound_of_refusal {request : Http.Request} {e : HttpError}
    (h : request.refusal? = some e) : e.isNotFound = false := by
  rw [Http.Request.refusal?] at h
  split at h
  · cases h; rfl
  · split_ifs at h <;> cases h <;> rfl

/-- A request that is sent is in the logs, answered or not. -/
lemma send_leaves {request : Http.Request} {answer : Option Answer}
    {Q : Except Halt Answer → Trail → Prop}
    (hsent : Q (.ok (answer.getD lastAnswer)) { sent := [request] })
    (hrefused : ∀ e : HttpError, e.isNotFound = false → Q (.ok (.refusal e)) .empty)
    (hsilent : Q (.ok .silence) .empty) : (send request answer).Leaves Q := by
  refine Leaves.get_bind fun w => ?_
  split
  · split
    · exact Leaves.pure (hrefused _ (not_notFound_of_refusal ‹_›))
    · exact Leaves.pure hsilent
  · exact Leaves.modify_bind (World.trail_exchange request) (Leaves.pure (by simpa using hsent))

/-- A request that is refused before it is sent ends the loop with an error. -/
lemma receive_refusal {i : Nat} {e : HttpError} (h : e.isNotFound = false) (context : Context) :
    l.receive i (.refusal e) context = fail (.http e) := by
  simp [receive, h]

/-! ## A round -/

/-- What a round tells of skipped processors is among what it may tell. -/
lemma sublist_notices {before after : List Event}
    (hb : before.Sublist [.processorSkipped l.job l.request.before.label])
    (ha : after.Sublist [.processorSkipped l.job l.request.after.label]) :
    (before ++ after).Sublist l.notices :=
  hb.append ha

/-- **One round.** -/
theorem round_leaves (i : Nat) (answer : Option Answer)
    (context : Context) : (l.round i answer context).Leaves (l.RoundTrail i) := by
  refine Leaves.bind (Leaves.bind ?_)
  refine ready_leaves (fun x before hb => Then.ok ?_) fun e states hs => ?_
  · have hskip := sublist_notices hb (List.nil_sublist _)
    rw [List.append_nil] at hskip
    refine Leaves.checkStop_bind fun stop => ?_
    cases stop with
    | true => exact Leaves.pure (Then.ok (Leaves.pure (by simpa using .cancelled x.2 hskip)))
    | false =>
        refine Leaves.pure (Then.ok (Leaves.bind (send_leaves (Then.ok ?_) (fun e he => ?_) ?_)))
        · refine receive_leaves (fun outcome c ho => ?_) (fun c stop after written json ha hw => ?_)
            (fun e after written json ha hw => ?_) (fun e after states ha hs => ?_) ?_
          · simpa using .outOfData outcome c x.1 ho hskip
          · have log : l.PageLog i _ := .intro json (sublist_notices hb ha) hw
            simpa [shown] using RoundTrail.page c stop x.1 log
          · have log : l.PageLog i _ := .intro json (sublist_notices hb ha) hw
            simpa [shown] using RoundTrail.brokenGate e x.1 log
          · have log : l.RoundTrail i _ _ := .broken e [x.1] _ (sublist_notices hb ha)
              (Nat.le_refl 1) ((List.prefix_append_right_inj [.running, .processing]).2 hs)
            simpa [shown] using log
          · exact .hung _
        · refine Then.ok ?_
          rw [receive_refusal he]
          exact Leaves.fail
            (by simpa using .broken _ [] _ hskip (Nat.zero_le 1) ⟨[.processing], rfl⟩)
        · exact Then.ok (Leaves.throw (.hung _))
  · exact .broken e [] states (List.nil_sublist _) (Nat.zero_le 1) (hs.trans ⟨[.processing], rfl⟩)

/-! ## All rounds -/

/-- How many requests and responses go with `n` whole rounds, by how the loop ends. -/
def Counts : Except Halt LoopResult → Nat → Nat → Prop
  | .ok r, n, sent => r.iterations = n ∧ r.outcome.Requests n sent
  | .error _, n, sent => sent = n ∨ sent = n + 1

/-- The states of `n` whole rounds and perhaps of a part of one more.  The last state of the last
whole round may be missing. -/
def Cycles (n : Nat) (states : List JobState) : Prop :=
  states <+: (List.replicate (n + 1) roundStates).flatten ∧ 4 * n ≤ states.length + 1

/-- **What all rounds leave** after the first `k`: whole rounds, numbered from `k + 1` on, and the
notices of at most one more. -/
inductive RoundsTrail (l : Loop) (k : Nat) : Except Halt LoopResult → Trail → Prop where
  | ends {r : Except Halt LoopResult} (pages : List (List Event)) {skips : List Event}
      {sent : List Http.Request} {states : List JobState}
      (hp : List.Forall₂ l.PageLog (List.range' (k + 1) pages.length) pages)
      (hs : skips.Sublist l.notices) (hc : Counts r pages.length sent.length)
      (hst : Cycles pages.length states) :
      RoundsTrail l k r ⟨pages.flatten ++ skips, sent, l.shown states⟩
  | hung (t : Trail) : RoundsTrail l k (.error .hung) t

/-- Part of a cycle of states is the beginning of the first. -/
lemma cycles_zero {states : List JobState} (h : states <+: roundStates) : Cycles 0 states :=
  ⟨by simpa using h, by simp⟩

lemma cycles_succ {n : Nat} {states : List JobState} (h : Cycles n states) :
    Cycles (n + 1) (roundStates ++ states) := by
  refine ⟨?_, ?_⟩
  · rw [List.replicate_succ, List.flatten_cons]
    exact (List.prefix_append_right_inj _).2 h.1
  · have := h.2
    simp only [roundStates, List.length_append, List.length_cons, List.length_nil]
    omega

/-- A whole round that goes on comes before all the others. -/
lemma RoundsTrail.cons {k : Nat} {log : List Event} (request : Http.Request)
    (hp : l.PageLog (k + 1) log) (context : Context) {r : Except Halt LoopResult} {t : Trail}
    (h : l.RoundsTrail (k + 1) r t) :
    l.RoundsTrail k (r.map (·.withPage context)) (⟨log, [request], l.shown roundStates⟩ ++ t) := by
  cases h with
  | hung t => exact .hung _
  | @ends r pages skips sent states hps hs hc hst =>
      have whole : List.Forall₂ l.PageLog (List.range' (k + 1) (log :: pages).length)
          (log :: pages) := .cons hp hps
      have counts : Counts (r.map (·.withPage context)) (log :: pages).length
          (request :: sent).length := by
        rcases r with e | ⟨outcome, c, ps⟩
        · simp only [Except.map, Counts, List.length_cons] at hc ⊢
          omega
        · cases outcome <;>
            simp only [Except.map, Counts, LoopResult.withPage, LoopOutcome.Requests,
              LoopResult.iterations, List.length_cons] at hc ⊢ <;> omega
      simpa [shown] using RoundsTrail.ends _ whole hs counts (cycles_succ hst)

/-- A whole round may be the last one. -/
lemma RoundsTrail.of_page {k : Nat} {log : List Event} (request : Http.Request)
    (hp : l.PageLog (k + 1) log) {r : Except Halt LoopResult} (hc : Counts r 1 1) :
    l.RoundsTrail k r ⟨log, [request], l.shown [.running, .processing, .processing]⟩ := by
  have whole : List.Forall₂ l.PageLog (List.range' (k + 1) [log].length) [log] := .cons hp .nil
  have cycles : Cycles [log].length [.running, .processing, .processing] :=
    ⟨⟨_, rfl⟩, Nat.le_refl 4⟩
  have counts : Counts r [log].length [request].length := hc
  simpa using RoundsTrail.ends [log] whole (List.nil_sublist _) counts cycles

/-- A round may end without having been a whole one. -/
lemma RoundsTrail.of_part {k : Nat} {skips : List Event} {sent : List Http.Request}
    {states : List JobState} {r : Except Halt LoopResult} (hs : skips.Sublist l.notices)
    (hc : Counts r 0 sent.length) (hst : states <+: roundStates) :
    l.RoundsTrail k r ⟨skips, sent, l.shown states⟩ :=
  .ends [] .nil hs hc (cycles_zero hst)

/-- A round that ends the loop is all of it. -/
lemma RoundsTrail.of_ended {k : Nat} {outcome : LoopOutcome} {context : Context} {t : Trail}
    (h : l.RoundTrail (k + 1) (.ok (.ended outcome context)) t) :
    l.RoundsTrail k (.ok ⟨outcome, context, []⟩) t := by
  cases h with
  | cancelled _ hs => exact .of_part hs ⟨rfl, rfl⟩ ⟨[.processing, .repeating], rfl⟩
  | outOfData _ _ request ho hs =>
      refine .of_part hs ⟨rfl, ?_⟩ ⟨[.processing, .repeating], rfl⟩
      rcases ho with rfl | rfl <;> rfl

lemma RoundsTrail.of_last {k : Nat} {context : Context} {last : Bool} {t : Trail}
    (h : l.RoundTrail (k + 1) (.ok (.page context last)) t) :
    l.RoundsTrail k (.ok ⟨.stopConditionMet, context, [context]⟩) t := by
  cases h with
  | page _ _ request hp => exact .of_page request hp ⟨rfl, rfl, Nat.le_refl 1⟩

lemma RoundsTrail.of_error {k : Nat} {h : Halt} {t : Trail}
    (ht : l.RoundTrail (k + 1) (.error h) t) : l.RoundsTrail k (.error h) t := by
  cases ht with
  | broken e sent states hs hl hst =>
      have one : sent.length = 0 ∨ sent.length = 0 + 1 := by omega
      exact .of_part hs one (hst.trans ⟨[.repeating], rfl⟩)
  | brokenGate e request hp => exact .of_page request hp (Or.inl rfl : (1 : Nat) = 1 ∨ 1 = 1 + 1)
  | hung t => exact .hung t

/-- **All rounds**, by recursion on the answers still to come. -/
theorem rounds_leaves (l : Loop) :
    ∀ (answers : List Answer) (k : Nat) (context : Context),
      (l.rounds answers k context).Leaves (l.RoundsTrail k)
  | [], k, context => by
      refine Leaves.bind ((round_leaves _ _ _).mono ?_)
      rintro (h | ⟨outcome, c⟩ | ⟨c, last⟩) t ht
      · exact .of_error ht
      · exact Then.ok (Leaves.pure (by simpa using .of_ended ht))
      · exact Then.ok (Leaves.pure (by simpa using .of_last ht))
  | answer :: rest, k, context => by
      refine Leaves.bind ((round_leaves _ _ _).mono ?_)
      rintro (h | ⟨outcome, c⟩ | ⟨c, _ | _⟩) t ht
      · exact .of_error ht
      · exact Then.ok (Leaves.pure (by simpa using .of_ended ht))
      · cases ht with
        | @page _ _ request log hp =>
            have whole : (⟨log, [request], l.shown [.running, .processing, .processing]⟩ : Trail)
                ++ { states := [(l.token, .repeating)] } =
                  ⟨log, [request], l.shown roundStates⟩ := by
              simp [shown, roundStates]
            refine Then.ok (Leaves.publish_bind (Leaves.bind
              ((rounds_leaves l rest (k + 1) c).mono fun r u hu => ?_)))
            have later := RoundsTrail.cons request hp c hu
            rw [← whole, Trail.append_assoc] at later
            cases r with
            | error h => exact later
            | ok r => exact Then.ok (Leaves.pure (by simpa [Except.map] using later))
      · exact Then.ok (Leaves.pure (by simpa using .of_last ht))

/-- **A loop from its checkpoint on.** -/
theorem run_leaves (context : Context) :
    (l.run context).Leaves (l.RoundsTrail 0) := by
  refine Leaves.bind (resume_leaves (fun c => ?_) fun e => ?_)
  · exact Then.ok (Leaves.get_bind fun w => by simpa using rounds_leaves l w.answers 0 c)
  · have none : Counts (.error (.failed e)) 0 ([] : List Http.Request).length := .inl rfl
    exact .of_part (List.nil_sublist _) none List.nil_prefix

end Loop

/-! ## A request job -/

namespace RequestJob

/-- The loop of a job. -/
def toLoop (j : RequestJob) : Loop := ⟨j.name, j.request, j.token⟩

/-- What a round of a job tells of its processors when both are skipped. -/
def notices (j : RequestJob) : List Event :=
  [.processorSkipped j.name "pre_process", .processorSkipped j.name "post_process"]

/-- **What a request job leaves**, by how it ends. -/
inductive JobTrail (j : RequestJob) : Except Halt JobReport → Trail → Prop where
  | completed {report : JobReport} (pages : List (List Event)) {skips : List Event}
      {sent : List Http.Request} {states : List JobState}
      (hp : List.Forall₂ j.toLoop.PageLog (List.range' 1 pages.length) pages)
      (hs : skips.Sublist j.notices) (hn : report.iterations = pages.length)
      (hr : report.outcome.Requests pages.length sent.length)
      (hst : Loop.Cycles pages.length states) :
      JobTrail j (.ok report)
        ⟨.jobStarted j.name :: (pages.flatten ++ skips ++
            [.jobCompleted j.name report.outcome.name pages.length]),
          sent, j.toLoop.shown (states ++ [.stopped])⟩
  | failed (e : RunError) (pages : List (List Event)) {skips : List Event}
      {sent : List Http.Request} {states : List JobState}
      (hp : List.Forall₂ j.toLoop.PageLog (List.range' 1 pages.length) pages)
      (hs : skips.Sublist j.notices)
      (hr : sent.length = pages.length ∨ sent.length = pages.length + 1)
      (hst : Loop.Cycles pages.length states) :
      JobTrail j (.error (.failed e))
        ⟨.jobStarted j.name :: (pages.flatten ++ skips ++ [.jobFailed j.name e.message]),
          sent, j.toLoop.shown (states ++ [.failed])⟩
  | hung (t : Trail) : JobTrail j (.error .hung) t

variable {j : RequestJob}

/-- A job that is stopped before it starts is a loop that has gone through no round. -/
lemma loop_leaves : j.loop.Leaves (j.toLoop.RoundsTrail 0) := by
  refine Leaves.checkStop_bind fun stop => ?_
  cases stop with
  | true =>
      have none : Loop.Counts (.ok ⟨.cancelled, j.context, []⟩) 0 ([] : List Http.Request).length :=
        ⟨rfl, rfl⟩
      exact Leaves.pure (.of_part (List.nil_sublist _) none List.nil_prefix)
  | false => exact Loop.run_leaves j.context

lemma notices_toLoop (hl : j.request.Labelled) : j.toLoop.notices = j.notices := by
  simp only [Loop.notices, toLoop, hl.1, hl.2, notices]

/-- A whole job, from its loop. -/
lemma run_leaves (hl : j.request.Labelled) : j.run.Leaves j.JobTrail := by
  refine Leaves.emit_bind (Leaves.bind ((Leaves.settle loop_leaves).mono ?_))
  rintro (h | e | r) t ht
  · obtain ⟨rfl, -⟩ := ht
    exact .hung _
  · cases ht with
    | ends pages hp hs hc hst =>
        rw [notices_toLoop hl] at hs
        refine Then.ok (Leaves.emit_bind (Leaves.publish_bind (Leaves.fail ?_)))
        simpa [Loop.shown, toLoop] using JobTrail.failed e pages hp hs hc hst
  · cases ht with
    | ends pages hp hs hc hst =>
        rw [notices_toLoop hl] at hs
        refine Then.ok (Leaves.emit_bind (Leaves.publish_bind (Leaves.pure ?_)))
        have ended : j.JobTrail (.ok ⟨j.name, r.outcome, r.iterations, r.context⟩) _ :=
          .completed pages hp hs hc.1 hc.2 hst
        simpa [Loop.shown, toLoop, hc.1] using ended

/-- **The logs of a request job.**  Whenever the definition of a request loads, its job leaves one
event of its start, whole rounds with the numbers from one on, the notices of at most one round
that broke off, and one event of its end; the requests sent and the states shown go along.  The
context, the functions, the store, the answers and the stops are those of any world. -/
theorem run_trail {d : Definition.Request} {index : Nat} {request : Request}
    (h : d.load index = .ok request) (context : Context) (token : Token) (w : World) :
    ∃ t, (RequestJob.run ⟨request, context, token⟩ w).2.trail = w.trail ++ t ∧
      JobTrail ⟨request, context, token⟩ (RequestJob.run ⟨request, context, token⟩ w).1 t :=
  run_leaves (Definition.Request.labelled_of_load h) w

end RequestJob

/-! ## Pages of items

A request that is sent until a function says so, keeps a page number and stores it. -/

/-- The definition of a request for pages of items. -/
def itemsDefinition : Definition.Request where
  name := some "items"
  loop := {
    options := { url := "items" }
    after := { pipeline := [{ function := "set_var", inputs := ["2"], output := some "page" }] }
    repetition := { kind := "loop", stopConditions := [{ function := "is_true", inputs := ["x"] }] }
    checkpoint := some { scope := ["items"], content := .ofList [("page", "2")] } }

/-- The request of that definition. -/
def itemsRequest : Request where
  name := "items"
  options := ⟨⟨"items", .literal⟩, "GET", [], [], none⟩
  before := ⟨"pre_process", [], []⟩
  after := ⟨"post_process", [], [⟨⟨"set_var", [⟨"2", .literal⟩]⟩, some "page"⟩]⟩
  repetition := ⟨"loop", [⟨⟨"is_true", [⟨"x", .literal⟩]⟩⟩]⟩
  checkpoint := some ⟨[⟨"items", .literal⟩], [("page", ⟨"2", .literal⟩)]⟩

lemma itemsDefinition_load : itemsDefinition.load 0 = .ok itemsRequest := by
  have options : itemsDefinition.loop.options.load = .ok itemsRequest.options := rfl
  have before : itemsDefinition.loop.before.load "pre_process" = .ok itemsRequest.before := rfl
  have after : itemsDefinition.loop.after.load "post_process" = .ok itemsRequest.after := rfl
  have repetition : itemsDefinition.loop.repetition.load = .ok itemsRequest.repetition := by
    have kind : Text.lower (Text.trim "loop") = "loop" := by decide
    have gate : Definition.loadAll Definition.Condition.load
        itemsDefinition.loop.repetition.stopConditions = .ok itemsRequest.repetition.stopGate := rfl
    rw [Definition.Repetition.load, gate]
    simp [itemsDefinition, kind, itemsRequest]
  have checkpoint : Definition.loadOptional Definition.Checkpoint.load
      itemsDefinition.loop.checkpoint = .ok itemsRequest.checkpoint := rfl
  rw [Definition.Request.load, Definition.Loop.load, options, before, after, repetition, checkpoint]
  rfl

/-- A world in which items are never done: two answers, and an empty store. -/
def itemsWorld : World where
  functions := [("is_true", fun _ => .ok ⟨.bool false, ""⟩),
    ("set_var", fun inputs => .ok ⟨inputs.headD .null, ""⟩)]
  network := .scripted
  answers := [.response ⟨200, [], "a"⟩, .response ⟨200, [], "b"⟩]
  store := some ⟨[]⟩

theorem RequestJob.run_trail_items :
    itemsDefinition.load 0 = .ok itemsRequest ∧
      ∃ t, (RequestJob.run ⟨itemsRequest, [], [0]⟩ itemsWorld).2.trail = itemsWorld.trail ++ t ∧
        JobTrail ⟨itemsRequest, [], [0]⟩ (RequestJob.run ⟨itemsRequest, [], [0]⟩ itemsWorld).1 t :=
  ⟨itemsDefinition_load, RequestJob.run_trail itemsDefinition_load [] [0] itemsWorld⟩

end Connector
