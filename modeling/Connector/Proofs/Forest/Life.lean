import Connector.Proofs.Scheduler.Handover

/-!
# The life of a job's children to come

What a run leaves of a job is its children to come, and a job has not ended before they are through:
the last one may have been taken, a stop may be seen, the outputs may be taken, or the rest may be
let go of.  Whichever comes first ends the job, and nothing that is done afterwards does so again.

* `Forks.Use`, `Forks.uses` — what can be done with the children to come, time and again;
  `Forks.Leave` — the ways to be done with them.
* `ForkingJob.yield` — the outputs of the first stage.
* `ForkingJob.Underway`, `ForkingJob.Over` — a job that has not ended yet, and one that has.
* `ForkingJob.NextComes`, `Underway.next` — a call for the next child comes to one, or to the end.
* `Underway.uses`, `Underway.exhaust`, `Underway.leave` — what is done with a job that has not
  ended; `Over.uses`, `Forks.Finished.leave` — with one that has.
* **`ForkingJob.life`** — the whole life, from the run to the end.
-/

namespace Connector

open Work

namespace World

variable {w u : World} {token : Token}

/-! ## States and stops -/

@[simp] lemma state_display (t : Token) (s : JobState) (w : World) :
    (w.display t s).state t = s := by
  simp [state, stateIn, display]

/-- States shown by others do not matter. -/
lemma state_of_trail {t : Trail} (h : u.trail = w.trail ++ t)
    (others : ∀ entry ∈ t.states, entry.1 ≠ token) : u.state token = w.state token := by
  have states : u.states = w.states ++ t.states := congrArg Trail.states h
  have none : t.states.reverse.find? (fun entry => entry.1 = token) = none := by
    simpa using fun a b hab => others (a, b) hab
  rw [state, state, stateIn, stateIn, states, List.reverse_append, List.find?_append, none]
  rfl

/-- To ask for stops adds to those asked for, and that is all. -/
lemma exists_requestStops (ts : List Token) (w : World) :
    ∃ more, w.requestStops ts = { w with stops := w.stops ++ more } := by
  obtain ⟨more, same⟩ := exists_passOn { w with stops := w.stops ++ ts }
  exact ⟨ts ++ more, by rw [requestStops, same, ← List.append_assoc]⟩

lemma stops_look (w : World) : w.stops <+: w.look.stops := List.prefix_append _ _

end World

/-- More stops reach no less. -/
lemma stopRequested_mono {stops more : List Token} {t : Token} (h : stops <+: more)
    (hs : stopRequested stops t = true) : stopRequested more t = true := by
  obtain ⟨rest, rfl⟩ := h
  rw [stopRequested, List.any_append, Bool.or_eq_true]
  exact .inl hs

/-! ## What a stage shows -/

/-- A stage that comes to something shows states of its own token only. -/
lemma Stage.perform_states (stage : Stage) (token : Token) (context : Context) :
    (stage.perform token context).Leaves fun r t =>
      ∀ outputs, r = .ok outputs → ∀ entry ∈ t.states, entry.1 = token := by
  cases stage with
  | http request =>
      refine Leaves.bind ((Loop.run_leaves context).mono ?_)
      rintro (h | r) t ht
      · rintro outputs ⟨⟩
      · cases ht with
        | ends pages hp hs hc hst =>
            refine Leaves.Then.ok (Leaves.pure fun _ _ entry he => ?_)
            simp only [Trail.append_empty, Loop.shown, List.mem_map] at he
            obtain ⟨s, -, rfl⟩ := he
            rfl
  | split s =>
      simp only [perform]
      rcases s.contexts context with e | contexts
      · exact Leaves.fail (by rintro outputs ⟨⟩)
      · exact Leaves.pure fun _ _ => by rintro entry ⟨⟩
  | process p =>
      refine Leaves.get_bind fun w => Leaves.say_bind ?_
      rcases (p.run w.functions context).outcome with e | _ | outputs
      · exact Leaves.fail (by rintro outputs ⟨⟩)
      · exact Leaves.emit_bind (Leaves.pure fun _ _ => by rintro entry ⟨⟩)
      · exact Leaves.pure fun _ _ => by rintro entry ⟨⟩

/-- A stage takes no stop back. -/
lemma Stage.stops_perform (stage : Stage) (token : Token) (context : Context) (w : World) :
    w.stops <+: (stage.perform token context w).2.stops := by
  have lasting := lasting_asked w.stops
  have steady : Steady (Same fun u : World => w.stops <+: u.stops) (stage.perform token context) :=
    lasting.harmony.perform (fun request _ => lasting.digests (fun _ _ h => h) request) trivial
      context
  exact steady.keeps (List.prefix_refl _)

namespace Forks

/-! ## Children in turn -/

lemma childrenOf_append (parent : String) (token : Token) (rest : List Stage) (n : Nat)
    (outputs more : List Context) :
    childrenOf parent token rest n (outputs ++ more) =
      childrenOf parent token rest n outputs ++
        childrenOf parent token rest (n + outputs.length) more := by
  induction outputs generalizing n with
  | nil => rfl
  | cons context outputs ih =>
      have number : n + (outputs.length + 1) = n + 1 + outputs.length := by omega
      simp [childrenOf, ih, number]

/-- **A use of the children to come**: to take the next one, or to ask for a stop of anybody. -/
inductive Use where
  | next
  | stop (t : Token)

/-- Where something is left of a list, its first item is the next one. -/
lemma of_drop_eq_cons {α : Type} {l later : List α} {n : Nat} {a : α} (h : l.drop n = a :: later) :
    l[n]? = some a ∧ l.drop (n + 1) = later ∧ l.take (n + 1) = l.take n ++ [a] := by
  have here : l[n]? = some a := by
    rw [← List.head?_drop, h]
    rfl
  refine ⟨here, ?_, ?_⟩
  · rw [← List.tail_drop, h]
    rfl
  · rw [List.take_add_one, here]
    rfl

/-- One use; there may be a child. -/
def use (f : Forks) : Use → Work (Option ForkingJob × Forks)
  | .next => f.next
  | .stop t => do
    modify (World.requestStops [t])
    return (none, f)

/-- **Uses in turn**, with the children that they come to. -/
def uses (f : Forks) : List Use → Work (List ForkingJob × Forks)
  | [] => return ([], f)
  | x :: rest => do
    let (child, f) ← f.use x
    let (children, f) ← f.uses rest
    return (child.toList ++ children, f)

/-- **The ways to be done with the children to come**: to take the outputs, to take children until
there is none, or to let go. -/
inductive Leave where
  | outputs
  | exhaust
  | drop

/-- Be done with the children to come; there may be last children, or outputs. -/
def leave (f : Forks) : Leave → Work (List ForkingJob × List Context)
  | .outputs => return ([], ← f.takeOutputs)
  | .exhaust => return (← f.children, [])
  | .drop => do
    f.drop
    return ([], [])

/-- **Nothing is to come any more.** -/
structure Finished (f : Forks) : Prop where
  finished : f.finished = true
  outputs : f.outputs = []

lemma Finished.next {f : Forks} (h : f.Finished) (w : World) : f.next w = (.ok (none, f), w) := by
  rw [Forks.next, h.finished]
  rfl

lemma Finished.finish {f : Forks} (h : f.Finished) (outcome : String) (w : World) :
    f.finish outcome w = (.ok f, w) := by
  rw [Forks.finish, h.finished]
  rfl

/-- Nothing is left to be taken. -/
lemma Finished.leave {f : Forks} (h : f.Finished) (e : Leave) (w : World) :
    f.leave e w = (.ok ([], []), w) := by
  have dropped : f.drop w = (.ok (), w) := map_ok (h.finish _ w) _
  cases e with
  | drop => exact bind_ok dropped _
  | exhaust =>
      have none : f.children w = (.ok [], w) := by
        rw [children, h.outputs]
        exact bind_ok (h.next w) _
      exact bind_ok none _
  | outputs =>
      have none : f.takeOutputs w = (.ok [], w) := by
        rw [takeOutputs]
        split
        · have ended : discard (f.finish "completed") w = (.ok (), w) := map_ok (h.finish _ w) _
          rw [bind_ok ended, h.outputs]
          rfl
        · exact bind_ok dropped _
      exact bind_ok none _

/-- The next child of a leaf: it ends. -/
lemma next_of_leaf {f : Forks} (hf : f.finished = false) (hl : f.isLeaf = true) (w : World) :
    f.next w = (do return (none, ← f.finish "completed") :
      Work (Option ForkingJob × Forks)) w := by
  rw [next, hf, hl]
  rfl

/-- The next child of another job: a look, and the end or a child. -/
lemma next_of_inner {f : Forks} (hf : f.finished = false) (hl : f.isLeaf = false) (w : World) :
    f.next w = (if w.look.isStopRequested f.token then
        do return (none, ← f.finish "cancelled")
      else
        match f.outputs with
        | [] => do return (none, ← f.finish "forked")
        | context :: later => do
          emit (.jobForked f.parent (f.child context).name)
          return (some (f.child context), { f with outputs := later, produced := f.produced + 1 }) :
      Work (Option ForkingJob × Forks)) w.look := by
  rw [next, hf, hl]
  simp only [Bool.false_eq_true, if_false]
  exact bind_ok (checkStop_apply _ _) _

end Forks

namespace ForkingJob

variable {j : ForkingJob} {w u v : World} {outputs : List Context} {asked : List Token}
  {children : List ForkingJob} {f : Forks}

/-! ## A job that has not ended, and one that has -/

/-- **The outputs of the first stage**: none where there is no stage, and none where a stop is seen
before it or right after it. -/
def yield (j : ForkingJob) (w : World) : List Context :=
  match j.stages with
  | [] => []
  | head :: _ =>
    if (j.begun w).isStopRequested j.token then []
    else
      match head.perform j.stageToken j.context ((j.begun w).display j.token .processing) with
      | (.ok outputs, u) => if u.look.isStopRequested j.token then [] else outputs
      | (.error _, _) => []

/-- **Children in turn**: those of the first outputs, and none of a leaf. -/
structure Offspring (j : ForkingJob) (outputs : List Context) (children : List ForkingJob) :
    Prop where
  fits : children.length ≤ outputs.length
  inTurn : children =
    Forks.childrenOf j.name j.token j.stages.tail 0 (outputs.take children.length)
  leaf : j.stages.tail = [] → children = []

/-- **What a job has told** since it was run: its start, what happened inside it, its children, and
perhaps its end. -/
def Told (j : ForkingJob) (w : World) (children : List ForkingJob) (closing : List Event)
    (u : World) : Prop :=
  ∃ inner, Inside inner ∧ u.events =
    w.events ++ .jobStarted j.name :: (inner ++ Forks.told j.name children ++ closing)

/-- **A job that has not ended**: what is to come are the outputs that have not become children. -/
structure Underway (j : ForkingJob) (w : World) (outputs : List Context)
    (children : List ForkingJob) (f : Forks) (u : World) : Prop where
  offspring : j.Offspring outputs children
  forks : f = ⟨j.name, j.token, j.stages.tail, outputs.drop children.length, children.length, false⟩
  told : j.Told w children [] u
  state : u.state j.token = .processing

/-- **A job that has ended**, later than some stops were asked for: it was cancelled exactly if one
of the stops asked for by then reaches it. -/
structure Over (j : ForkingJob) (w : World) (outputs : List Context) (asked : List Token)
    (children : List ForkingJob) (u : World) : Prop where
  offspring : j.Offspring outputs children
  told : ∃ outcome seen, asked <+: seen ∧ seen <+: u.stops ∧
    (outcome = "cancelled" ↔ stopRequested seen j.token = true) ∧
    j.Told w children [.jobCompleted j.name outcome children.length] u
  state : u.state j.token = .stopped

/-- A job that has ended later than it was asked for more stops. -/
lemma Over.of_more {more : List Token} (h : j.Over w outputs more children u)
    (hp : asked <+: more) : j.Over w outputs asked children u where
  offspring := h.offspring
  told := by
    obtain ⟨outcome, seen, before, after, iff, told⟩ := h.told
    exact ⟨outcome, seen, hp.trans before, after, iff, told⟩
  state := h.state

/-- A job stays over, whatever stops are asked for. -/
lemma Over.of_same (h : j.Over w outputs asked children u) (he : v.events = u.events)
    (hst : v.states = u.states) (hs : u.stops <+: v.stops) :
    j.Over w outputs asked children v where
  offspring := h.offspring
  told := by
    obtain ⟨outcome, seen, before, after, iff, inner, inside, told⟩ := h.told
    exact ⟨outcome, seen, before, after.trans hs, iff, inner, inside, he.trans told⟩
  state := by
    rw [World.state, hst]
    exact h.state

lemma Underway.of_same (h : j.Underway w outputs children f u) (he : v.events = u.events)
    (hst : v.states = u.states) : j.Underway w outputs children f v where
  offspring := h.offspring
  forks := h.forks
  told := by
    obtain ⟨inner, inside, told⟩ := h.told
    exact ⟨inner, inside, he.trans told⟩
  state := by
    rw [World.state, hst]
    exact h.state

/-- **A job comes to its end** in a step: the end is told, and nothing is to come any more. -/
structure Done (j : ForkingJob) (w : World) (outputs : List Context) (children : List ForkingJob)
    (u : World) (g : Forks) (v : World) : Prop where
  finished : g.Finished
  told : ∃ outcome, v.events = u.events ++ [.jobCompleted j.name outcome children.length]
  grown : u.stops <+: v.stops
  stays : j.Over w outputs u.stops children v

/-- To hear of stops first makes no difference. -/
lemma Done.of_look (h : j.Done w outputs children u.look f v) : j.Done w outputs children u f v :=
  ⟨h.finished, h.told, u.stops_look.trans h.grown, h.stays.of_more u.stops_look⟩

/-- **What a call for the next child comes to.**  Where there are outputs and stages left and no stop
is seen, it is the child of the next output, and else the job comes to its end. -/
inductive NextComes (j : ForkingJob) (w : World) (outputs : List Context)
    (children : List ForkingJob) (u : World) :
    Except Halt (Option ForkingJob × Forks) × World → Prop where
  | child {child : ForkingJob} {context : Context} {g : Forks} (hl : j.stages.tail ≠ [])
      (hs : u.look.isStopRequested j.token = false)
      (ho : outputs[children.length]? = some context)
      (hc : child = ⟨j.name ++ "#" ++ toString (children.length + 1), context, j.stages.tail,
        j.token.child (children.length + 1)⟩)
      (hu : j.Underway w outputs (children ++ [child]) g
        (u.look.tell (.jobForked j.name child.name))) :
      NextComes j w outputs children u
        (.ok (some child, g), u.look.tell (.jobForked j.name child.name))
  | ends {g : Forks} {v : World} (hn : j.stages.tail = [] ∨
        u.look.isStopRequested j.token = true ∨ children.length = outputs.length)
      (hd : j.Done w outputs children u g v) :
      NextComes j w outputs children u (.ok (none, g), v)

/-- **What it comes to be done with the children to come.**  A leaf that has not ended gives its
outputs where they are taken, and a job with stages left that has not ended its last children where
they are taken; there is nothing else to be had. -/
structure Parts (j : ForkingJob) (outputs : List Context) (f : Forks) (u : World) (e : Forks.Leave)
    (last : List ForkingJob) (taken : List Context) : Prop where
  outputs : e = .outputs ∧ f.finished = false ∧ j.stages.tail = [] → taken = outputs
  nothing : e ≠ .outputs ∨ j.stages.tail ≠ [] ∨ f.finished = true → taken = []
  children : e = .exhaust ∧ f.finished = false ∧ j.stages.tail ≠ [] →
    Forks.Between j.token u f.outputs (last.map ForkingJob.context)
  childless : e ≠ .exhaust ∨ j.stages.tail = [] ∨ f.finished = true → last = []

/-! ## What is done with a job that has not ended -/

/-- The end is told behind everything else. -/
lemma Told.close (h : j.Told w children [] u) {e : Event} (he : v.events = u.events ++ [e]) :
    j.Told w children [e] v := by
  obtain ⟨inner, inside, told⟩ := h
  exact ⟨inner, inside, by rw [he, told]; simp⟩

/-- **The end of a job**: it is told once, as a cancellation if a stop was asked for by then. -/
lemma finish_done (offspring : j.Offspring outputs children) (told : j.Told w children [] u)
    {o : String} (ho : o = "cancelled" → u.isStopRequested j.token = true)
    (rest : List Stage) (left : List Context) :
    ∃ g v, Forks.finish o ⟨j.name, j.token, rest, left, children.length, false⟩ u = (.ok g, v)
      ∧ j.Done w outputs children u g v := by
  have ended : (if u.look.isStopRequested j.token then "cancelled" else o) = "cancelled" ↔
      u.look.isStopRequested j.token = true := by
    by_cases hs : u.look.isStopRequested j.token = true
    · simp [hs]
    · have other : o ≠ "cancelled" := fun hc =>
        hs (stopRequested_mono u.stops_look (ho hc))
      simp [hs, other]
  refine ⟨_, _, rfl, ⟨rfl, rfl⟩, ⟨_, rfl⟩, u.stops_look, offspring, ?_, World.state_display _ _ _⟩
  exact ⟨_, u.look.stops, u.stops_look, List.prefix_refl _, ended, told.close rfl⟩

namespace Underway

/-- Stops that are heard of leave a job underway. -/
lemma look (h : j.Underway w outputs children f u) : j.Underway w outputs children f u.look :=
  h.of_same rfl rfl

/-- The outputs to come and the children there are make up all outputs. -/
lemma remaining (h : j.Underway w outputs children f u) :
    children.length + f.remaining = outputs.length := by
  have fits := h.offspring.fits
  rw [h.forks, Forks.remaining, List.length_drop]
  omega

lemma finish (h : j.Underway w outputs children f u) {o : String}
    (ho : o = "cancelled" → u.isStopRequested j.token = true) :
    ∃ g v, f.finish o u = (.ok g, v) ∧ j.Done w outputs children u g v := by
  rw [h.forks]
  exact finish_done h.offspring h.told ho _ _

/-- Whether it has stages left for its children does not change. -/
lemma isLeaf (h : j.Underway w outputs children f u) : f.isLeaf = j.stages.tail.isEmpty := by
  rw [h.forks, Forks.isLeaf]

/-- **The next output becomes a child.** -/
lemma fork (h : j.Underway w outputs children f u) (hl : j.stages.tail ≠ []) {context : Context}
    {later : List Context} (hf : f.outputs = context :: later) :
    j.Underway w outputs (children ++ [f.child context])
      { f with outputs := later, produced := f.produced + 1 }
      (u.tell (.jobForked f.parent (f.child context).name)) := by
  obtain ⟨⟨fits, inTurn, -⟩, forks, ⟨inner, inside, told⟩, state⟩ := h
  subst forks
  have left : outputs.drop children.length = context :: later := hf
  obtain ⟨here, rest, longer⟩ := Forks.of_drop_eq_cons left
  have short : children.length < outputs.length := (List.getElem?_eq_some_iff.1 here).1
  refine ⟨⟨?_, ?_, fun leaf => absurd leaf hl⟩, ?_, ⟨inner, inside, ?_⟩, state⟩
  · rw [List.length_append, List.length_singleton]
    exact short
  · rw [List.length_append, List.length_singleton, longer, Forks.childrenOf_append, ← inTurn]
    have count : 0 + (outputs.take children.length).length = children.length := by
      rw [List.length_take]
      omega
    rw [count]
    rfl
  · simp [rest]
  · simp [World.tell, told, Forks.told]

/-- What ends a job comes to no child. -/
lemma none_finish (h : j.Underway w outputs children f u) {o : String}
    (ho : o = "cancelled" → u.isStopRequested j.token = true) :
    ∃ g v, (do return (none, ← f.finish o) : Work (Option ForkingJob × Forks)) u
        = (.ok (none, g), v) ∧ j.Done w outputs children u g v := by
  obtain ⟨g, v, hg, done⟩ := h.finish ho
  exact ⟨g, v, bind_ok hg _, done⟩

/-- **The next child**, or the end. -/
theorem next (h : j.Underway w outputs children f u) :
    j.NextComes w outputs children u (f.next u) := by
  have token : f.token = j.token := by rw [h.forks]
  have unfinished : f.finished = false := by rw [h.forks]
  have left : outputs.drop children.length = f.outputs := by rw [h.forks]
  cases leaf : f.isLeaf with
  | true =>
      obtain ⟨g, v, hg, done⟩ := h.none_finish (o := "completed")
        fun same => absurd same (by decide)
      rw [Forks.next_of_leaf unfinished leaf u, hg]
      rw [h.isLeaf, List.isEmpty_iff] at leaf
      exact .ends (.inl leaf) done
  | false =>
      have inner : j.stages.tail ≠ [] := by
        rw [h.isLeaf] at leaf
        simpa using leaf
      rw [Forks.next_of_inner unfinished leaf u]
      cases hs : u.look.isStopRequested f.token with
      | true =>
          rw [token] at hs
          obtain ⟨g, v, hg, done⟩ := h.look.none_finish (o := "cancelled") fun _ => hs
          rw [if_pos rfl, hg]
          exact .ends (.inr (.inl hs)) done.of_look
      | false =>
          rw [token] at hs
          rw [if_neg Bool.false_ne_true]
          rcases ho : f.outputs with _ | ⟨context, later⟩
          · obtain ⟨g, v, hg, done⟩ := h.look.none_finish (o := "forked")
              fun same => absurd same (by decide)
            have all : outputs.length ≤ children.length := by
              rwa [ho, List.drop_eq_nil_iff] at left
            dsimp only
            rw [hg]
            exact .ends (.inr (.inr (Nat.le_antisymm h.offspring.fits all))) done.of_look
          · obtain ⟨here, -, -⟩ := Forks.of_drop_eq_cons (left.trans ho)
            have forked := h.look.fork inner ho
            have same : f.child context = ⟨j.name ++ "#" ++ toString (children.length + 1), context,
                j.stages.tail, j.token.child (children.length + 1)⟩ := by
              rw [h.forks]
              rfl
            have parent : f.parent = j.name := by rw [h.forks]
            rw [parent] at forked ⊢
            exact .child inner hs here same forked

/-- **One use.** -/
lemma use (h : j.Underway w outputs children f u) (x : Forks.Use) :
    ∃ child g v, f.use x u = (.ok (child, g), v) ∧ u.stops <+: v.stops ∧
      (u.isStopRequested j.token = true → child = none) ∧
      (j.Underway w outputs (children ++ child.toList) g v ∨
        child = none ∧ g.Finished ∧ j.Over w outputs u.stops children v) := by
  cases x with
  | next =>
      have comes := h.next
      rw [Forks.use]
      generalize f.next u = out at comes
      cases comes with
      | child hl hs ho hc hu =>
          refine ⟨_, _, _, rfl, u.stops_look, fun asked => ?_, .inl hu⟩
          rw [World.isStopRequested, stopRequested_mono u.stops_look asked] at hs
          cases hs
      | ends hn hd =>
          exact ⟨none, _, _, rfl, hd.grown, fun _ => rfl, .inr ⟨rfl, hd.finished, hd.stays⟩⟩
  | stop t =>
      obtain ⟨more, hm⟩ := World.exists_requestStops [t] u
      refine ⟨none, f, u.requestStops [t], rfl, ?_, fun _ => rfl, .inl ?_⟩
      · rw [hm]
        exact List.prefix_append _ _
      · rw [Option.toList_none, List.append_nil]
        exact h.of_same (by rw [hm]) (by rw [hm])

end Underway

/-- Once a job has ended, its children to come are used in vain. -/
lemma Over.uses (h : j.Over w outputs asked children u) (hf : f.Finished) (xs : List Forks.Use) :
    ∃ v, f.uses xs u = (.ok ([], f), v) ∧ v.events = u.events ∧
      j.Over w outputs asked children v := by
  induction xs generalizing u with
  | nil => exact ⟨u, rfl, rfl, h⟩
  | cons x rest ih =>
      obtain ⟨v, hx, events, gone⟩ : ∃ v, f.use x u = (.ok (none, f), v) ∧ v.events = u.events ∧
          j.Over w outputs asked children v := by
        cases x with
        | next => exact ⟨u, hf.next u, rfl, h⟩
        | stop t =>
            obtain ⟨more, hm⟩ := World.exists_requestStops [t] u
            refine ⟨u.requestStops [t], rfl, by rw [hm], h.of_same (by rw [hm]) (by rw [hm]) ?_⟩
            rw [hm]
            exact List.prefix_append _ _
      obtain ⟨v', hrest, events', gone'⟩ := ih gone
      exact ⟨v', (bind_ok hx _).trans (bind_ok hrest _), events'.trans events, gone'⟩

namespace Underway

/-- **Any number of uses**, by recursion on them: children in turn, none once a stop is asked for,
and perhaps the end. -/
lemma uses (h : j.Underway w outputs children f u) (xs : List Forks.Use) :
    ∃ more g v, f.uses xs u = (.ok (more, g), v) ∧
      (u.isStopRequested j.token = true → more = []) ∧
      (u.stops <+: v.stops ∧ j.Underway w outputs (children ++ more) g v ∨
        g.Finished ∧ j.Over w outputs u.stops (children ++ more) v) := by
  induction xs generalizing children f u with
  | nil => exact ⟨[], f, u, rfl, fun _ => rfl, .inl ⟨List.prefix_refl _, by simpa using h⟩⟩
  | cons x rest ih =>
      obtain ⟨child, g, v, hx, grown, unasked, under | ⟨rfl, finished, gone⟩⟩ := h.use x
      · obtain ⟨more, g', v', hrest, unasked', phase⟩ := ih under
        refine ⟨child.toList ++ more, g', v', (bind_ok hx _).trans (bind_ok hrest _), ?_, ?_⟩
        · intro asked
          rw [unasked asked, unasked' (stopRequested_mono grown asked)]
          rfl
        · rw [← List.append_assoc]
          rcases phase with ⟨grown', under'⟩ | ⟨finished, gone⟩
          · exact .inl ⟨grown.trans grown', under'⟩
          · exact .inr ⟨finished, gone.of_more grown⟩
      · obtain ⟨v', hrest, -, gone'⟩ := gone.uses finished rest
        refine ⟨[], g, v', (bind_ok hx _).trans (bind_ok hrest _), fun _ => rfl,
          .inr ⟨finished, ?_⟩⟩
        rw [List.append_nil]
        exact gone'

/-- **Children are taken until there is none**: those of the outputs that are left, up to a stop.
Every child but the end takes an output, so the induction is on a bound of their number. -/
lemma exhaust (h : j.Underway w outputs children f u) (n : Nat) (hn : f.outputs.length < n) :
    ∃ last v, f.childrenFrom n u = (.ok last, v) ∧ j.Over w outputs u.stops (children ++ last) v ∧
      (u.isStopRequested j.token = true → last = []) ∧ (j.stages.tail = [] → last = []) ∧
      (j.stages.tail ≠ [] → Forks.Between j.token u f.outputs (last.map ForkingJob.context)) := by
  induction n generalizing children f u with
  | zero => cases hn
  | succ n ih =>
      have left : outputs.drop children.length = f.outputs := by rw [h.forks]
      have comes := h.next
      rw [Forks.childrenFrom, bind_apply]
      generalize f.next u = out at comes
      cases comes with
      | @child child context g hl hs ho hc hu =>
          obtain ⟨later, split⟩ : ∃ later, f.outputs = context :: later := by
            rw [← left, List.drop_eq_getElem?_toList_append, ho]
            exact ⟨_, rfl⟩
          obtain ⟨-, behind, -⟩ := Forks.of_drop_eq_cons (left.trans split)
          have rest : g.outputs = later := by
            rw [hu.forks, List.length_append, List.length_singleton]
            exact behind
          have fewer : g.outputs.length < n := by
            rw [split, List.length_cons] at hn
            rw [rest]
            omega
          obtain ⟨last, v, hx, gone, -, -, between⟩ := ih hu fewer
          refine ⟨child :: last, v, bind_ok hx _, ?_, fun asked => ?_, fun leaf => ?_, fun _ => ?_⟩
          · rw [List.append_assoc] at gone
            exact gone.of_more u.stops_look
          · rw [World.isStopRequested, stopRequested_mono u.stops_look asked] at hs
            cases hs
          · exact absurd leaf hl
          · rw [split, List.map_cons, hc, ← rest]
            exact .cons (u.isStopRequested_look j.token ▸ hs) context (between hl)
      | @ends g v hn hd =>
          refine ⟨[], v, rfl, by simpa using hd.stays, fun _ => rfl, fun _ => rfl, fun inner => ?_⟩
          rcases hn with leaf | stopped | all
          · exact absurd leaf inner
          · exact .stopped (u.isStopRequested_look j.token ▸ stopped) _
          · rw [← left, all, List.drop_length]
            exact .nil _ _

/-- **To be done with a job** ends it. -/
lemma leave (h : j.Underway w outputs children f u) (e : Forks.Leave) :
    ∃ last taken v, f.leave e u = (.ok (last, taken), v) ∧
      j.Over w outputs u.stops (children ++ last) v ∧
      (u.isStopRequested j.token = true → last = []) ∧ j.Parts outputs f u e last taken := by
  have unfinished : f.finished = false := by rw [h.forks]
  have dropped : ∃ v, f.drop u = (.ok (), v) ∧ j.Over w outputs u.stops (children ++ []) v := by
    obtain ⟨g, v, hg, done⟩ := h.finish (o := "dropped") fun same => absurd same (by decide)
    exact ⟨v, map_ok hg _, by simpa using done.stays⟩
  obtain ⟨v, hd, gone⟩ := dropped
  cases e with
  | drop => exact ⟨[], [], v, bind_ok hd _, gone, fun _ => rfl, by simp, by simp, by simp, by simp⟩
  | exhaust =>
      obtain ⟨last, v, hx, gone, stopped, leaf, between⟩ := h.exhaust _ (Nat.lt_succ_self _)
      refine ⟨last, [], v, bind_ok hx _, gone, stopped, by simp, by simp, ?_, ?_⟩
      · exact fun inner => between inner.2.2
      · rintro (other | childless | finished)
        · exact absurd rfl other
        · exact leaf childless
        · cases unfinished.symm.trans finished
  | outputs =>
      by_cases leaf : j.stages.tail = []
      · obtain ⟨g, v, hg, done⟩ := h.finish (o := "completed") fun same => absurd same (by decide)
        have ended : discard (f.finish "completed") u = (.ok (), v) := map_ok hg _
        have all : f.outputs = outputs := by
          rw [h.forks, h.offspring.leaf leaf]
          rfl
        have isLeaf : f.isLeaf = true := by simp [h.isLeaf, leaf]
        have taken : f.takeOutputs u = (.ok outputs, v) := by
          rw [Forks.takeOutputs, if_pos isLeaf, bind_ok ended, all]
          rfl
        refine ⟨[], outputs, v, bind_ok taken _, by simpa using done.stays, fun _ => rfl,
          fun _ => rfl, ?_, by simp, fun _ => rfl⟩
        rintro (other | inner | finished)
        · exact absurd rfl other
        · exact absurd leaf inner
        · cases unfinished.symm.trans finished
      · have inner : f.isLeaf = false := by simp [h.isLeaf, leaf]
        have taken : f.takeOutputs u = (.ok [], v) := by
          rw [Forks.takeOutputs, inner]
          exact bind_ok hd _
        exact ⟨[], [], v, bind_ok taken _, gone, fun _ => rfl, fun ho => absurd ho.2.2 leaf,
          fun _ => rfl, by simp, fun _ => rfl⟩

end Underway

/-! ## From the run on -/

/-- No child yet. -/
lemma Offspring.none (j : ForkingJob) (outputs : List Context) : j.Offspring outputs [] :=
  ⟨Nat.zero_le _, rfl, fun _ => rfl⟩

/-- A job that ends in its run has had no child. -/
lemma over_of_ended {o : String} (told : j.Told w [] [] u)
    (ho : o = "cancelled" → u.isStopRequested j.token = true)
    (h : Forks.ended j.name j.token o u = (.ok f, v)) :
    f.Finished ∧ j.Over w [] u.stops [] v := by
  obtain ⟨g, v', hg, done⟩ := finish_done (.none j []) told ho [] []
  rw [Forks.ended] at h
  cases h.symm.trans hg
  exact ⟨done.finished, done.stays⟩

/-- A job whose first stage came to outputs is underway with them, unless a stop is seen right
after it. -/
lemma begins_of_performed {head : Stage} {rest : List Stage} (hj : j.stages = head :: rest)
    (hs : (j.begun w).isStopRequested j.token = false)
    (hp : head.perform j.stageToken j.context ((j.begun w).display j.token .processing) =
      (.ok outputs, v)) (h : j.run w = (.ok f, u)) :
    w.stops <+: u.stops ∧ j.Underway w (j.yield w) [] f u ∨
      f.Finished ∧ j.Over w (j.yield w) w.stops [] u := by
  have yielded : j.yield w = if v.look.isStopRequested j.token then [] else outputs := by
    simp [yield, hj, hs, hp]
  have grown : w.stops <+: v.stops := by
    have kept := head.stops_perform j.stageToken j.context
      ((j.begun w).display j.token .processing)
    rw [hp] at kept
    exact (World.stops_look (j.started w)).trans kept
  obtain ⟨t, ht, inside, shown⟩ := ((head.perform_inside j.stageToken j.context).and
    (head.perform_states j.stageToken j.context)) ((j.begun w).display j.token .processing)
  rw [hp] at ht shown
  have told : j.Told w [] [] v.look := by
    refine ⟨t.events, inside, ?_⟩
    have events : v.events = _ ++ t.events := congrArg Trail.events ht
    simp only [World.look, events]
    simp [World.trail, begun, ForkingJob.started, World.display, World.tell, World.look, Forks.told]
  rw [run_of_performed hj hs hp, ← World.isStopRequested_look] at h
  rw [yielded]
  cases late : v.look.isStopRequested j.token with
  | true =>
      rw [if_pos late] at h
      obtain ⟨finished, gone⟩ := over_of_ended told (fun _ => late) h
      exact .inr ⟨finished, gone.of_more (grown.trans v.stops_look)⟩
  | false =>
      rw [if_neg (by simp [late])] at h
      cases h
      refine .inl ⟨grown.trans v.stops_look, .none j outputs, by simp [hj], told, ?_⟩
      have apart (entry) (he : entry ∈ t.states) : entry.1 ≠ j.token := by
        rw [shown outputs rfl entry he, stageToken, Token.child]
        simp
      have state := World.state_of_trail ht apart
      rw [World.state_display] at state
      exact state

/-- **What a run leaves**: a job underway with the outputs of its first stage, or one that has
ended without any. -/
lemma begins (h : j.run w = (.ok f, u)) :
    w.stops <+: u.stops ∧ j.Underway w (j.yield w) [] f u ∨
      f.Finished ∧ j.Over w (j.yield w) w.stops [] u := by
  have started : j.Told w [] [] (j.started w) := ⟨[], nofun, rfl⟩
  rcases hj : j.stages with _ | ⟨head, rest⟩
  · have none : j.yield w = [] := by simp [yield, hj]
    rw [run_of_nil hj] at h
    rw [none]
    obtain ⟨finished, gone⟩ := over_of_ended started (o := "no_tasks") nofun h
    exact .inr ⟨finished, gone⟩
  cases hs : (j.begun w).isStopRequested j.token with
  | true =>
      have none : j.yield w = [] := by simp [yield, hj, hs]
      rw [run_of_stopped hj hs] at h
      have told : j.Told w [] [] (j.begun w) := started
      obtain ⟨finished, gone⟩ := over_of_ended told (fun _ => hs) h
      rw [none]
      exact .inr ⟨finished, gone.of_more (World.stops_look _)⟩
  | false =>
      rcases hp : head.perform j.stageToken j.context
        ((j.begun w).display j.token .processing) with ⟨(e | _) | outputs, v⟩
      · rw [run_of_performing hj hs, hp] at h
        cases h
      · rw [run_of_performing hj hs, hp] at h
        cases h
      · exact begins_of_performed hj hs hp h

/-! ## The whole life -/

/-- **The rest of a life**, after some uses: however the children to come are used further, and
whatever is done in the end, the end is told once; where a stop is asked for there is no further
child, and where the job has ended already nothing more is told. -/
def RestOfLife (j : ForkingJob) (w : World) (children : List ForkingJob) (f : Forks) (u : World) :
    Prop :=
  ∀ (xs : List Forks.Use) (e : Forks.Leave), ∃ more g v last taken v',
    f.uses xs u = (.ok (more, g), v) ∧ g.leave e v = (.ok (last, taken), v') ∧
      j.Over w (j.yield w) (if f.finished then w.stops else u.stops) (children ++ more ++ last) v' ∧
      (u.isStopRequested j.token = true → more = [] ∧ last = []) ∧
      (f.finished = true → more = [] ∧ v'.events = u.events) ∧
      j.Parts (j.yield w) g v e last taken

/-- **A life through some uses** and on from there.  A job that has not ended has as many outputs to
come as have not become children, and a call for the next child comes to one or to the end; one that
has ended has none to come, and never has a child again. -/
def LivesThrough (j : ForkingJob) (w : World) (f : Forks) (u : World) (xs : List Forks.Use) :
    Prop :=
  ∃ children g v, f.uses xs u = (.ok (children, g), v) ∧
    (g.finished = false → j.Underway w (j.yield w) children g v ∧
      children.length + g.remaining = (j.yield w).length ∧
      j.NextComes w (j.yield w) children v (g.next v)) ∧
    (g.finished = true → j.Over w (j.yield w) w.stops children v ∧
      g.remaining = 0 ∧ ∀ v', g.next v' = (.ok (none, g), v')) ∧
    j.RestOfLife w children g v

/-- From a job that has ended there is nothing to be had. -/
lemma Parts.of_finished (hf : f.Finished) (outputs : List Context) (u : World) (e : Forks.Leave) :
    j.Parts outputs f u e [] [] := by
  constructor <;> simp [hf.finished]

lemma Underway.rest (h : j.Underway w (j.yield w) children f u) : j.RestOfLife w children f u := by
  intro xs e
  have unfinished : f.finished = false := by rw [h.forks]
  obtain ⟨more, g, v, hx, unasked, ⟨grown, under⟩ | ⟨finished, gone⟩⟩ := h.uses xs
  · obtain ⟨last, taken, v', hl, gone, stopped, parts⟩ := under.leave e
    refine ⟨more, g, v, last, taken, v', hx, hl, ?_, fun asked => ?_, fun hf => ?_, parts⟩
    · rw [unfinished]
      exact gone.of_more grown
    · exact ⟨unasked asked, stopped (stopRequested_mono grown asked)⟩
    · cases unfinished.symm.trans hf
  · refine ⟨more, g, v, [], [], v, hx, finished.leave e v, ?_, fun asked => ⟨unasked asked, rfl⟩,
      fun hf => ?_, .of_finished finished _ v e⟩
    · rw [unfinished, List.append_nil]
      exact gone
    · cases unfinished.symm.trans hf

lemma Over.rest (h : j.Over w (j.yield w) w.stops children u) (hf : f.Finished) :
    j.RestOfLife w children f u := by
  intro xs e
  obtain ⟨v, hx, events, gone⟩ := h.uses hf xs
  refine ⟨[], f, v, [], [], v, hx, hf.leave e v, ?_, fun _ => ⟨rfl, rfl⟩, fun _ => ⟨rfl, events⟩,
    .of_finished hf _ v e⟩
  rw [hf.finished, List.append_nil, List.append_nil]
  exact gone

/-- **The life of a job that was run.**  Through any uses of its children to come and any end, its
children are those of the first outputs of its first stage, in order; it ends once, with their
number, and as a cancellation exactly if a stop was asked for by then; and until then it is shown
to be processing, from then on to be stopped. -/
theorem life (h : j.run w = (.ok f, u)) (xs : List Forks.Use) : j.LivesThrough w f u xs := by
  -- what there is after the uses is a job underway, or one that has ended
  have underway {children g v} (hx : f.uses xs u = (.ok (children, g), v))
      (under : j.Underway w (j.yield w) children g v) : j.LivesThrough w f u xs := by
    have unfinished : g.finished = false := by rw [under.forks]
    refine ⟨children, g, v, hx, fun _ => ⟨under, under.remaining, under.next⟩, fun hf => ?_,
      under.rest⟩
    rw [unfinished] at hf
    cases hf
  have ended {children g v} (hx : f.uses xs u = (.ok (children, g), v)) (finished : g.Finished)
      (gone : j.Over w (j.yield w) w.stops children v) : j.LivesThrough w f u xs := by
    have none : g.remaining = 0 := by rw [Forks.remaining, finished.outputs]; rfl
    refine ⟨children, g, v, hx, fun hf => ?_, fun _ => ⟨gone, none, finished.next⟩,
      gone.rest finished⟩
    rw [finished.finished] at hf
    cases hf
  rcases begins h with ⟨grown, under⟩ | ⟨finished, gone⟩
  · obtain ⟨more, g, v, hx, -, ⟨-, later⟩ | ⟨finished, gone⟩⟩ := under.uses xs
    · exact underway hx later
    · exact ended hx finished (gone.of_more grown)
  · obtain ⟨v, hx, -, gone'⟩ := gone.uses finished xs
    exact ended hx finished gone'

/-! Two pages of items, each of which would become a child; a stop comes after the first one. -/

/-- A job that fetches items and goes on with each page. -/
def itemsSync : ForkingJob :=
  ⟨"sync", [], [.http itemsRequest, .process ⟨"keep", [], []⟩], [0]⟩

theorem life_items : ∃ f u child g v, itemsSync.run itemsWorld = (.ok f, u) ∧
    (itemsSync.yield itemsWorld).length = 2 ∧
    f.uses [.next, .stop [0], .next] u = (.ok ([child], g), v) ∧ child.name = "sync#1" ∧
    itemsSync.LivesThrough itemsWorld f u [.next, .stop [0], .next] := by
  obtain ⟨f, u, child, g, v, h, hx, named⟩ : ∃ f u child g v,
      itemsSync.run itemsWorld = (.ok f, u) ∧
      f.uses [.next, .stop [0], .next] u = (.ok ([child], g), v) ∧ child.name = "sync#1" :=
    ⟨_, _, _, _, _, rfl, rfl, rfl⟩
  exact ⟨f, u, child, g, v, h, rfl, hx, named, life h _⟩

end ForkingJob

end Connector
