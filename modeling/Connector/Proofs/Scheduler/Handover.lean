import Connector.Proofs.Loop.Pages
import Connector.Proofs.Scheduler.Blocks
import Connector.Proofs.Wire

/-!
# What a request hands on

A job whose first stage is a request gets a context for every page, and hands them on: as results
when no stage is left, and with its children else.  It looks for a stop before the request, after
it, and before every child, and each of those looks may end it.

* `World.sees` — whether a stop is seen some looks from now.
* `Forks.handOn`, `ForkingJob.handOn` — the contexts that a job hands on.
* `Forks.Between` — the contexts of the children that come before a stop.
* `Forks.children_between` — children of a job, by induction on its outputs.
* `ForkingJob.BreaksOff` — a request that fails after some of its pages.
* **`ForkingJob.handOn_pages`** — the pages of every other request, and what becomes of them.
* `ForkingJob.not_keepsPages` — a request that is stopped hands on less than it told of.
-/

namespace Connector

open Work

/-! ## Looks to come -/

/-- **Whether a stop of a token is seen** at the `n`-th look from now. -/
def World.sees (t : Token) (n : Nat) (w : World) : Bool :=
  stopRequested (w.stops ++ (w.interrupts.take n).flatten) t

namespace World

lemma sees_zero (t : Token) (w : World) : w.sees t 0 = w.isStopRequested t := by
  simp [sees, isStopRequested]

lemma sees_look (t : Token) (n : Nat) (w : World) : w.look.sees t n = w.sees t (n + 1) := by
  rcases hi : w.interrupts with _ | ⟨next, later⟩ <;> simp [sees, look, hi]

lemma isStopRequested_look (t : Token) (w : World) : w.look.isStopRequested t = w.sees t 1 := by
  rw [← sees_zero, sees_look]

/-- **A stage has done nothing** from one world to the other: no request has been sent and no answer
taken, nothing has been printed, the store is as it was, and no page has been told of. -/
structure Untouched (w v : World) : Prop where
  wire : v.wire = w.wire
  printed : v.printed = w.printed
  store : v.store = w.store
  pages : v.pages = w.pages

lemma Untouched.trans {u v w : World} (h : w.Untouched u) (h' : u.Untouched v) : w.Untouched v :=
  ⟨h'.wire.trans h.wire, h'.printed.trans h.printed, h'.store.trans h.store,
    h'.pages.trans h.pages⟩

end World

namespace Forks

/-! ## Children -/

/-- **The contexts that are handed on**: the outputs of a leaf, or those of the children. -/
def handOn (f : Forks) : Work (List Context) := do
  if f.isLeaf then f.takeOutputs else return (← f.children).map ForkingJob.context

/-- **The outputs that become children**: those before the first look that sees a stop. -/
def Between (t : Token) (w : World) (outputs contexts : List Context) : Prop :=
  ∃ n ≤ outputs.length, contexts = outputs.take n ∧ (∀ i < n, w.sees t (i + 1) = false) ∧
    (n < outputs.length → w.sees t (n + 1) = true)

variable {parent : String} {token : Token} {rest : List Stage} {w : World} {n : Nat}
  {outputs : List Context}

/-- Every child has the context that it is made for. -/
lemma map_context_childrenOf (parent : String) (token : Token) (rest : List Stage) (n : Nat)
    (outputs : List Context) :
    (childrenOf parent token rest n outputs).map ForkingJob.context = outputs := by
  induction outputs generalizing n with
  | nil => rfl
  | cons context outputs ih => simp [childrenOf, ih]

/-- The end of a job never fails. -/
lemma finish_result (f : Forks) (outcome : String) (w : World) :
    ∃ g v, f.finish outcome w = (.ok g, v) := by
  rw [finish]
  split_ifs
  · exact ⟨_, _, rfl⟩
  · exact ⟨_, _, rfl⟩

/-- Where a stop is seen there is no further child. -/
lemma next_of_stopped (hr : rest ≠ []) (hs : w.sees token 1 = true) :
    ∃ g v, next ⟨parent, token, rest, outputs, n, false⟩ w = (.ok (none, g), v) := by
  have inner : isLeaf ⟨parent, token, rest, outputs, n, false⟩ = false := by simpa [isLeaf] using hr
  obtain ⟨g, v, hf⟩ := finish_result ⟨parent, token, rest, outputs, n, false⟩ "cancelled" w.look
  refine ⟨g, v, ?_⟩
  rw [← World.isStopRequested_look] at hs
  simp only [next, inner, if_false, Bool.false_eq_true]
  rw [bind_ok (checkStop_apply _ _), hs]
  exact bind_ok hf _

/-- When all outputs have become children there is no further one. -/
lemma next_of_nil (hr : rest ≠ []) :
    ∃ g v, next ⟨parent, token, rest, [], n, false⟩ w = (.ok (none, g), v) := by
  have inner : isLeaf ⟨parent, token, rest, [], n, false⟩ = false := by simpa [isLeaf] using hr
  cases hs : w.sees token 1 with
  | true => exact next_of_stopped hr hs
  | false =>
      obtain ⟨g, v, hf⟩ := finish_result ⟨parent, token, rest, [], n, false⟩ "forked" w.look
      refine ⟨g, v, ?_⟩
      rw [← World.isStopRequested_look] at hs
      simp only [next, inner, if_false, Bool.false_eq_true]
      rw [bind_ok (checkStop_apply _ _), hs]
      exact bind_ok hf _

/-- A job that is not stopped hands out a child for its next output. -/
lemma next_of_running (hr : rest ≠ []) (hs : w.sees token 1 = false) (context : Context) :
    next ⟨parent, token, rest, context :: outputs, n, false⟩ w =
      (.ok (some ⟨parent ++ "#" ++ toString (n + 1), context, rest, token.child (n + 1)⟩,
          ⟨parent, token, rest, outputs, n + 1, false⟩),
        w.look.tell (.jobForked parent (parent ++ "#" ++ toString (n + 1)))) := by
  have inner : isLeaf ⟨parent, token, rest, context :: outputs, n, false⟩ = false := by
    simpa [isLeaf] using hr
  rw [← World.isStopRequested_look] at hs
  simp only [next, inner, if_false, Bool.false_eq_true]
  rw [bind_ok (checkStop_apply _ _), hs]
  rfl

lemma Between.nil (t : Token) (w : World) : Between t w [] [] :=
  ⟨0, Nat.le_refl 0, rfl, nofun, nofun⟩

lemma Between.stopped {t : Token} (hs : w.sees t 1 = true) (outputs : List Context) :
    Between t w outputs [] :=
  ⟨0, Nat.zero_le _, rfl, nofun, fun _ => hs⟩

/-- An output comes out if no stop is seen before it. -/
lemma Between.cons {t : Token} {contexts : List Context} (hs : w.sees t 1 = false)
    (context : Context) (h : Between t w.look outputs contexts) :
    Between t w (context :: outputs) (context :: contexts) := by
  obtain ⟨n, hn, rfl, before, after⟩ := h
  refine ⟨n + 1, Nat.succ_le_succ hn, rfl, fun i hi => ?_, fun hl => ?_⟩
  · rcases i with _ | i
    · exact hs
    · rw [← World.sees_look]
      exact before i (Nat.lt_of_succ_lt_succ hi)
  · rw [← World.sees_look]
    exact after (Nat.lt_of_succ_lt_succ hl)

/-- **The children of a job** are those of the outputs before the first look that sees a stop. -/
lemma children_between (parent : String) (token : Token) (hr : rest ≠ []) (outputs : List Context)
    (n : Nat) (w : World) : ∃ contexts v, Between token w outputs contexts ∧
      Forks.children ⟨parent, token, rest, outputs, n, false⟩ w =
        (.ok (childrenOf parent token rest n contexts), v) := by
  rw [children]
  induction outputs generalizing n w with
  | nil =>
      obtain ⟨g, v, hn⟩ : ∃ g v, next ⟨parent, token, rest, [], n, false⟩ w = (.ok (none, g), v) :=
        next_of_nil hr
      exact ⟨[], v, .nil token w, bind_ok hn _⟩
  | cons context outputs ih =>
      cases hs : w.sees token 1 with
      | true =>
          obtain ⟨g, v, hn⟩ : ∃ g v,
              next ⟨parent, token, rest, context :: outputs, n, false⟩ w = (.ok (none, g), v) :=
            next_of_stopped hr hs
          exact ⟨[], v, .stopped hs _, bind_ok hn _⟩
      | false =>
          obtain ⟨contexts, v, between, later⟩ :=
            ih (n + 1) (w.look.tell (.jobForked parent (parent ++ "#" ++ toString (n + 1))))
          refine ⟨context :: contexts, v, .cons hs context between, ?_⟩
          exact (bind_ok (next_of_running hr hs context) _).trans (bind_ok later _)

/-- What is told of children, and of the end of a job, is told of no page. -/
lemma pages_of_told (parent : String) (children : List ForkingJob) (outcome : String) (n : Nat) :
    (told parent children ++ [Event.jobCompleted parent outcome n]).filterMap Event.page? = [] := by
  have silent : (told parent children).filterMap Event.page? = [] := by
    simp [told, List.filterMap_map, Event.page?, Function.comp_def]
  simp [silent, Event.page?]

/-- Handing on tells of no page. -/
lemma handOn_silent (parent : String) (token : Token) (rest : List Stage) (outputs : List Context) :
    (handOn ⟨parent, token, rest, outputs, 0, false⟩).Leaves fun _ t => t.pages = [] := by
  rcases rest with _ | ⟨head, rest⟩
  · refine Leaves.bind (Leaves.bind (finish_leaves rfl fun outcome => ?_))
    exact Leaves.Then.ok (Leaves.pure (Leaves.Then.ok (Leaves.pure rfl)))
  · refine Leaves.bind ((children_leaves parent token (List.cons_ne_nil _ _) outputs 0).mono ?_)
    rintro r t ⟨contexts, outcome, rfl, ht⟩
    refine Leaves.Then.ok (Leaves.pure ?_)
    rw [Trail.append_empty, Trail.pages, ht]
    exact pages_of_told _ _ _ _

/-- **What is handed on of the outputs of a stage**: all of them by a leaf, and else those before
the first look that sees a stop. -/
lemma handOn_contexts (parent : String) (token : Token) (rest : List Stage) (outputs : List Context)
    (w : World) : ∃ contexts v,
      handOn ⟨parent, token, rest, outputs, 0, false⟩ w = (.ok contexts, v) ∧ v.pages = w.pages ∧
        (rest = [] → contexts = outputs) ∧ (rest ≠ [] → Between token w outputs contexts) := by
  obtain ⟨t, ht, silent⟩ := handOn_silent parent token rest outputs w
  have pages := World.pages_of_trail ht
  rw [silent, List.append_nil] at pages
  rcases rest with _ | ⟨head, rest⟩
  · refine ⟨outputs, _, ?_, pages, fun _ => rfl, fun h => absurd rfl h⟩
    rfl
  · obtain ⟨contexts, v, between, hc⟩ :=
      children_between parent token (List.cons_ne_nil head rest) outputs 0 w
    have handed : handOn ⟨parent, token, head :: rest, outputs, 0, false⟩ w = (.ok contexts, v) := by
      refine (bind_ok hc _).trans ?_
      rw [map_context_childrenOf]
      rfl
    rw [handed] at pages
    exact ⟨contexts, v, handed, pages, nofun, fun _ => between⟩

/-- A job that has ended early hands on nothing, and leaves everything as it was. -/
lemma ended_handOn (parent : String) (token : Token) (outcome : String) (w : World) :
    ∃ v, (ended parent token outcome >>= handOn) w = (.ok [], v) ∧ w.Untouched v := by
  refine ⟨_, rfl, rfl, rfl, rfl, ?_⟩
  simp [World.pages, World.display, World.tell, World.look, Event.page?]

end Forks

/-! ## A job and its request -/

namespace ForkingJob

/-- **The contexts that a job hands on**. -/
def handOn (j : ForkingJob) : Work (List Context) := do (← j.run).handOn

/-- The world in which a job looks for a stop for the first time. -/
def begun (j : ForkingJob) (w : World) : World := (j.started w).look

/-- What the loop of a request comes to as the first stage of a job. -/
def fetch (j : ForkingJob) (request : Request) (w : World) : Except Halt LoopResult × World :=
  Loop.run ⟨request.name, request, j.stageToken⟩ j.context ((j.begun w).display j.token .processing)

/-- **A request breaks off** where its loop fails after some of its pages. -/
def BreaksOff (j : ForkingJob) (request : Request) (w : World) : Prop :=
  (j.begun w).isStopRequested j.token = false ∧
    ∃ h u, j.fetch request w = (.error h, u) ∧ u.pages ≠ w.pages

/-- **What becomes of the pages of a request**, by how its loop ends and by the stops that are seen
before it, right after it and between the children. -/
inductive HandsOn (j : ForkingJob) (request : Request) (w : World) :
    Except Halt (List Context) × World → Prop where
  | unasked {v : World} (hs : (j.begun w).isStopRequested j.token = true)
      (hv : w.Untouched v) : HandsOn j request w (.ok [], v)
  | refused {h : Halt} {u v : World} (hs : (j.begun w).isStopRequested j.token = false)
      (hl : j.fetch request w = (.error h, u)) (hp : v.pages = w.pages) :
      HandsOn j request w (.error h, v)
  | late {r : LoopResult} {u v : World} (hs : (j.begun w).isStopRequested j.token = false)
      (hl : j.fetch request w = (.ok r, u)) (hc : u.sees j.token 1 = true)
      (hp : v.pages = w.pages ++ r.pages.map .obj) : HandsOn j request w (.ok [], v)
  | handed {r : LoopResult} {u v : World} {contexts : List Context}
      (hs : (j.begun w).isStopRequested j.token = false)
      (hl : j.fetch request w = (.ok r, u)) (hc : u.sees j.token 1 = false)
      (hp : v.pages = w.pages ++ r.pages.map .obj)
      (leaf : j.stages.tail = [] → contexts = r.pages)
      (fork : j.stages.tail ≠ [] → Forks.Between j.token u.look r.pages contexts) :
      HandsOn j request w (.ok contexts, v)

variable {j : ForkingJob} {request : Request} {rest : List Stage} {w u : World}

/-- The start of a job is told of and shown, and that is all. -/
lemma untouched_begun (j : ForkingJob) (w : World) : w.Untouched (j.begun w) := by
  refine ⟨rfl, rfl, rfl, ?_⟩
  simp [begun, started, World.pages, World.display, World.tell, World.look, Event.page?]

/-- The loop of a stage is told of by its pages. -/
lemma pages_fetch {r : LoopResult} (hl : j.fetch request w = (.ok r, u)) :
    u.pages = w.pages ++ r.pages.map .obj := by
  have started : ((j.begun w).display j.token .processing).pages = w.pages :=
    (j.untouched_begun w).pages
  obtain ⟨t, ht, told⟩ := Loop.run_told ⟨request.name, request, j.stageToken⟩ j.context
    ((j.begun w).display j.token .processing)
  rw [fetch] at hl
  rw [hl] at ht told
  rw [World.pages_of_trail ht, started, told.1]

/-- A job that ends early hands on nothing. -/
lemma handOn_of_ended {outcome : String} (h : j.run w = Forks.ended j.name j.token outcome u) :
    ∃ v, j.handOn w = (.ok [], v) ∧ u.Untouched v := by
  obtain ⟨v, hv, untouched⟩ := Forks.ended_handOn j.name j.token outcome u
  exact ⟨v, by rw [handOn, bind_apply, h, ← bind_apply, hv], untouched⟩

/-- What a job makes of the end of its first stage. -/
lemma run_of_performing {head : Stage} {rest : List Stage} (hj : j.stages = head :: rest)
    (hs : (j.begun w).isStopRequested j.token = false) :
    j.run w =
      match head.perform j.stageToken j.context ((j.begun w).display j.token .processing) with
      | (.ok outputs, u) => (do
          if ← checkStop j.token then Forks.ended j.name j.token "cancelled"
          else return ⟨j.name, j.token, rest, outputs, 0, false⟩ : Work Forks) u
      | (.error (.failed e), u) => (.error (.failed e),
          (u.tell (.jobFailed j.name e.message)).display j.token .failed)
      | (.error .hung, u) => (.error .hung, u) := by
  rw [begun, started] at hs
  rw [run, bind_ok (publish_apply _ _ _), bind_ok (emit_apply _ _), hj]
  refine (bind_ok (checkStop_apply _ _) _).trans ?_
  rw [hs]
  refine (bind_ok (publish_apply _ _ _) _).trans ?_
  rw [bind_apply, settle, begun, started]
  rcases head.perform j.stageToken j.context _ with ⟨(e | _) | outputs, u⟩ <;> rfl

/-- What a job makes of the end of the loop of its request. -/
lemma run_of_running (hj : j.stages = .http request :: rest)
    (hs : (j.begun w).isStopRequested j.token = false) :
    j.run w = match j.fetch request w with
      | (.ok r, u) => (do
          if ← checkStop j.token then Forks.ended j.name j.token "cancelled"
          else return ⟨j.name, j.token, rest, r.pages, 0, false⟩ : Work Forks) u
      | (.error (.failed e), u) => (.error (.failed e),
          (u.tell (.jobFailed j.name e.message)).display j.token .failed)
      | (.error .hung, u) => (.error .hung, u) := by
  rw [run_of_performing hj hs, Stage.perform, bind_apply, fetch]
  rcases Loop.run ⟨request.name, request, j.stageToken⟩ j.context _ with ⟨(e | _) | r, u⟩ <;> rfl

/-- A job whose first stage came to outputs looks for a stop once more before it hands them on. -/
lemma run_of_performed {head : Stage} {outputs : List Context} (hj : j.stages = head :: rest)
    (hs : (j.begun w).isStopRequested j.token = false)
    (hp : head.perform j.stageToken j.context ((j.begun w).display j.token .processing) =
      (.ok outputs, u)) :
    j.run w = if u.sees j.token 1 then Forks.ended j.name j.token "cancelled" u.look
      else (.ok ⟨j.name, j.token, rest, outputs, 0, false⟩, u.look) := by
  rw [run_of_performing hj hs, hp]
  refine (bind_ok (checkStop_apply _ _) _).trans ?_
  rw [u.isStopRequested_look j.token]
  split_ifs <;> rfl

/-- The outputs of a request are the pages of its loop. -/
lemma run_of_fetched {r : LoopResult} (hj : j.stages = .http request :: rest)
    (hs : (j.begun w).isStopRequested j.token = false) (hl : j.fetch request w = (.ok r, u)) :
    j.run w = if u.sees j.token 1 then Forks.ended j.name j.token "cancelled" u.look
      else (.ok ⟨j.name, j.token, rest, r.pages, 0, false⟩, u.look) :=
  run_of_performed hj hs (bind_ok hl _)

/-- **The pages of a request, and what becomes of them**, unless the request breaks off. -/
theorem handOn_pages (name : String) (context : Context) (request : Request) (rest : List Stage)
    (token : Token) (w : World)
    (hb : ¬ BreaksOff ⟨name, context, .http request :: rest, token⟩ request w) :
    HandsOn ⟨name, context, .http request :: rest, token⟩ request w
      (handOn ⟨name, context, .http request :: rest, token⟩ w) := by
  generalize hj : (⟨name, context, .http request :: rest, token⟩ : ForkingJob) = j at hb ⊢
  obtain rfl : j.token = token := hj ▸ rfl
  have stages : j.stages = .http request :: rest := hj ▸ rfl
  cases hs : (j.begun w).isStopRequested j.token with
  | true =>
      obtain ⟨v, ended, untouched⟩ := handOn_of_ended (run_of_stopped stages hs)
      rw [ended]
      exact .unasked hs ((j.untouched_begun w).trans untouched)
  | false =>
      rcases hl : j.fetch request w with ⟨h | r, u⟩
      · have runs := run_of_running stages hs
        rw [hl] at runs
        have none : u.pages = w.pages := by
          by_contra some
          exact hb ⟨hs, h, u, hl, some⟩
        rcases h with e | _
        · have failed : j.handOn w = (.error (.failed e), _) := bind_error runs _
          rw [failed]
          refine .refused hs hl (Eq.trans ?_ none)
          simp [World.pages, World.display, World.tell, Event.page?]
        · have hung : j.handOn w = (.error .hung, u) := bind_error runs _
          rw [hung]
          exact .refused hs hl none
      · have told := pages_fetch hl
        have runs := run_of_fetched stages hs hl
        cases hc : u.sees j.token 1 with
        | true =>
            rw [if_pos hc] at runs
            obtain ⟨v, ended, untouched⟩ := handOn_of_ended runs
            rw [ended]
            exact .late hs hl hc (untouched.pages.trans told)
        | false =>
            rw [if_neg (by simp [hc])] at runs
            obtain ⟨contexts, v, hv, pages, leaf, fork⟩ :=
              Forks.handOn_contexts j.name j.token rest r.pages u.look
            have handed : j.handOn w = (.ok contexts, v) := (bind_ok runs _).trans hv
            rw [handed]
            have tail : j.stages.tail = rest := by rw [stages, List.tail_cons]
            exact .handed hs hl hc (pages.trans told) (tail ▸ leaf) (tail ▸ fork)

/-! Two pages of items: both are handed on, or the job is stopped after the first one. -/

/-- What is handed on by a run; one that fails hands on nothing. -/
def handed : Except Halt (List Context) → List Context
  | .ok contexts => contexts
  | .error _ => []

/-- **A job keeps its pages** if it hands on all that it told of. -/
def KeepsPages (j : ForkingJob) (w : World) : Prop :=
  (j.handOn w).2.pages = w.pages ++ (handed (j.handOn w).1).map .obj

/-- The request for items as the only stage of a job. -/
def itemsFetch : ForkingJob := ⟨"sync", [], [.http itemsRequest], [0]⟩

/-- A world in which the job of the items is stopped while its first request is under way. -/
def itemsCalledOff : World := { itemsWorld with alarm := some ⟨1, [[0]]⟩ }

theorem handOn_pages_items :
    (handed (itemsFetch.handOn itemsWorld).1).length = 2 ∧
      ¬ itemsFetch.BreaksOff itemsRequest itemsWorld ∧
      itemsFetch.HandsOn itemsRequest itemsWorld (itemsFetch.handOn itemsWorld) := by
  have whole : ¬ itemsFetch.BreaksOff itemsRequest itemsWorld := by
    rintro ⟨-, h, u, hl, -⟩
    have ends : (itemsFetch.fetch itemsRequest itemsWorld).1.toBool = true := rfl
    rw [hl] at ends
    cases ends
  exact ⟨rfl, whole, handOn_pages "sync" [] itemsRequest [] [0] itemsWorld whole⟩

/-- **Pages may be lost** by a stop while their request is under way: what it told of before is not
handed on. -/
theorem not_keepsPages : ¬ itemsFetch.KeepsPages itemsCalledOff := by
  have told : (itemsFetch.handOn itemsCalledOff).2.pages.length = 1 := rfl
  intro h
  rw [h] at told
  cases told

end ForkingJob

end Connector
