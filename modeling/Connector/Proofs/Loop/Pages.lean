import Connector.Proofs.Loop.Trail

/-!
# The pages of a loop

A loop keeps the context after every response, and tells of every response with its context.  The
two are the same list, so that whoever reads the events knows what the loop hands back.

* `Trail.pages` — the contexts that a trail tells of.
* `Loop.Round.Told`, `Loop.Told` — what a round and a loop that does not fail have told.
* `Loop.round_told` — one round, from its parts.
* **`Loop.run_told`** — the whole loop.
-/

namespace Connector

open Work Work.Leaves

/-- **The contexts that a trail tells of**, one for every response that was processed. -/
def Trail.pages (t : Trail) : List Json := t.events.filterMap Event.page?

@[simp] lemma Trail.pages_append (t u : Trail) : (t ++ u).pages = t.pages ++ u.pages :=
  List.filterMap_append

@[simp] lemma Trail.pages_empty : Trail.empty.pages = [] := rfl

lemma World.pages_of_trail {w u : World} {t : Trail} (h : u.trail = w.trail ++ t) :
    u.pages = w.pages ++ t.pages := by
  have events : u.events = w.events ++ t.events := congrArg Trail.events h
  simp [World.pages, events, Trail.pages]

namespace Loop

variable {l : Loop}

/-- **What a round has told**: its page where it has one, and none where it ends. -/
def Round.Told : Except Halt Round → Trail → Prop
  | .ok (.ended outcome _), t => outcome ≠ .stopConditionMet ∧ t.pages = []
  | .ok (.page context _), t => t.pages = [.obj context]
  | .error _, _ => True

/-- **What a loop has told**: its pages, in order.  The last page is the context that a loop leaves
whose repetition says so. -/
def Told : Except Halt LoopResult → Trail → Prop
  | .ok r, t => t.pages = r.pages.map .obj ∧
      (r.outcome = .stopConditionMet → r.pages.getLast? = some r.context)
  | .error _, _ => True

/-- Notices of skipped processors tell of no page. -/
lemma pages_of_sublist {skips : List Event} {job label : String}
    (h : skips.Sublist [.processorSkipped job label]) : skips.filterMap Event.page? = [] :=
  List.sublist_nil.1 (h.filterMap Event.page?)

lemma pages_of_written {written : List Event} (h : l.Written written) :
    written.filterMap Event.page? = [] := by
  rw [Written] at h
  split at h
  · rw [h, List.filterMap_nil]
  · obtain ⟨scope, content, rfl⟩ := h
    rfl

/-! ## One round -/

lemma digest_told (l : Loop) (i : Nat) (r : Http.Response) (context : Context) :
    (l.digest i r context).Leaves fun x t => ∀ page, x = .ok page → t.pages = [.obj page.1] := by
  -- what follows the processor, which has told of no page
  have rest (c : Context) : (do
      l.writeCheckpoint c
      emit (.iterationCompleted l.job i (.obj c))
      let w ← get
      let gate := l.request.repetition.shouldStop w.functions c
      say gate.2
      let stop ← attempt gate.1
      return (c, stop) : Work (Context × Bool)).Leaves
        fun x t => ∀ page, x = .ok page → t.pages = [.obj page.1] := by
    refine Leaves.bind (writeCheckpoint_leaves (fun written hw => Then.ok ?_) fun e => ?_)
    · refine Leaves.emit_bind (Leaves.get_bind fun w => Leaves.say_bind ?_)
      refine Leaves.attempt_bind (fun stop => Leaves.pure ?_) fun e => nofun
      rintro _ ⟨⟩
      simp [Trail.pages, pages_of_written hw, Event.page?, Trail.empty]
    · exact Then.error nofun
  refine Leaves.publish_bind (Leaves.bind (process_leaves (fun c => ?_) (fun c => ?_) fun e => ?_))
  · refine Then.ok ((rest c).mono fun x t ht page hx => ?_)
    rw [Trail.pages_append, Trail.pages_append, ht page hx]
    rfl
  · refine Then.ok ((rest c).mono fun x t ht page hx => ?_)
    simpa [Trail.pages] using ht page hx
  · exact nofun

lemma receive_told (l : Loop) (i : Nat) (answer : Answer) (context : Context) :
    (l.receive i answer context).Leaves Round.Told := by
  cases answer with
  | silence => exact Leaves.throw trivial
  | refusal e =>
      simp only [receive]
      split_ifs
      · exact Leaves.pure ⟨by decide, rfl⟩
      · exact Leaves.fail trivial
  | response r =>
      simp only [receive]
      split_ifs
      · exact Leaves.pure ⟨by decide, rfl⟩
      · refine Leaves.bind ((digest_told l i r context).mono fun x t ht => ?_)
        rcases x with h | page
        · exact Then.error trivial
        · exact Then.ok (Leaves.pure (by simpa [Round.Told] using ht page rfl))

/-- **One round**: what comes before the answer tells of no page. -/
lemma round_told (l : Loop) (i : Nat) (answer : Option Answer) (context : Context) :
    (l.round i answer context).Leaves Round.Told := by
  have silent {t u : Trail} (ht : t.pages = []) {x : Except Halt Round} (hu : Round.Told x u) :
      Round.Told x (t ++ u) := by
    rcases x with h | ⟨outcome, c⟩ | ⟨c, last⟩
    · trivial
    · exact ⟨hu.1, by rw [Trail.pages_append, ht, hu.2]; rfl⟩
    · rw [Round.Told, Trail.pages_append, ht]
      exact hu
  refine Leaves.bind (Leaves.bind ?_)
  refine ready_leaves (fun x skips hs => Then.ok ?_) fun e states hs => trivial
  have none : Trail.pages ⟨skips, [], l.shown [.running, .processing]⟩ = [] := pages_of_sublist hs
  refine Leaves.checkStop_bind fun stop => ?_
  cases stop with
  | true => exact Leaves.pure (Then.ok (Leaves.pure ⟨nofun, by simpa using none⟩))
  | false =>
      refine Leaves.pure (Then.ok (Leaves.bind (send_leaves ?_ (fun e he => ?_) ?_)))
      · refine Then.ok ((receive_told l i _ x.2).mono fun r t ht => ?_)
        have sent : Trail.pages (⟨skips, [], l.shown [.running, .processing]⟩ ++
            { sent := [x.1] }) = [] := by simpa [Trail.pages] using none
        have both := silent sent ht
        rw [Trail.append_assoc] at both
        simpa only [Trail.append_empty] using both
      · refine Then.ok ((receive_told l i _ x.2).mono fun r t ht => ?_)
        simpa using silent none ht
      · exact Then.ok (Leaves.throw trivial)

/-! ## All rounds -/

/-- A page comes before those of the rounds behind it. -/
lemma Told.withPage {context : Context} {r : LoopResult} {t u : Trail} (ht : t.pages = [.obj context])
    (hu : Told (.ok r) u) : Told (.ok (r.withPage context)) (t ++ u) := by
  refine ⟨by simp [LoopResult.withPage, ht, hu.1], fun ho => ?_⟩
  have last := hu.2 ho
  rw [LoopResult.withPage, List.getLast?_cons, last]
  rfl

/-- **All rounds**, by recursion on the answers still to come. -/
theorem rounds_told (l : Loop) : ∀ (answers : List Answer) (n : Nat) (context : Context),
    (l.rounds answers n context).Leaves Told
  | [], n, context => by
      refine Leaves.bind ((round_told l _ _ _).mono ?_)
      rintro (h | ⟨outcome, c⟩ | ⟨c, last⟩) t ht
      · exact Then.error trivial
      · exact Then.ok (Leaves.pure ⟨by simpa using ht.2, fun ho => absurd ho ht.1⟩)
      · have page : t.pages = [.obj c] := ht
        exact Then.ok (Leaves.pure ⟨by simpa using page, fun _ => rfl⟩)
  | answer :: rest, n, context => by
      refine Leaves.bind ((round_told l _ _ _).mono ?_)
      rintro (h | ⟨outcome, c⟩ | ⟨c, _ | _⟩) t ht
      · exact Then.error trivial
      · exact Then.ok (Leaves.pure ⟨by simpa using ht.2, fun ho => absurd ho ht.1⟩)
      · refine Then.ok (Leaves.publish_bind (Leaves.bind
          ((rounds_told l rest (n + 1) c).mono fun r u hu => ?_)))
        cases r with
        | error h => exact Then.error trivial
        | ok r =>
            have page : Trail.pages (t ++ { states := [(l.token, .repeating)] }) = [.obj c] := by
              rw [Trail.pages_append, ht]
              rfl
            refine Then.ok (Leaves.pure ?_)
            simpa [Trail.append_assoc] using Told.withPage page hu
      · have page : t.pages = [.obj c] := ht
        exact Then.ok (Leaves.pure ⟨by simpa using page, fun _ => rfl⟩)

/-- **A loop tells of the pages that it hands back.** -/
theorem run_told (l : Loop) (context : Context) : (l.run context).Leaves Told := by
  refine Leaves.bind (resume_leaves (fun c => ?_) fun e => trivial)
  exact Then.ok (Leaves.get_bind fun w => by simpa using rounds_told l w.answers 0 c)

end Loop

end Connector
