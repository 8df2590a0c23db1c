import Connector.Proofs.Forest.Family
import Connector.Proofs.Harmony
import Mathlib.Data.List.Basic

/-!
# Stops in a forest of jobs

Whoever holds the handle of a job can ask it to stop, at any time and for as long as the handle is
held, whatever has become of the job.  A stop reaches the job and those forked from it, now and
later, and nobody else.

* `Forest`, `Forest.step` — jobs in a world, and what can be done next.
* `World.Asks` — stops asked for, heard or not; `Stand.act_steady` — jobs ask for none.
* `Forest.Sound`, `Forest.Sound.step`, `Forest.sound_after` — what every step keeps.
* `ForkingJob.run_stopped` — the run of a job that was asked to stop.
* **`Forest.stop_reaches`** — a stop reaches exactly the jobs below, and they do nothing.
-/

namespace Connector

open Work

/-- **A forest of jobs** in a world, with the jobs that were asked to stop. -/
structure Forest where
  world : World
  nodes : List Node
  asked : List Nat

/-- **What can be done next**: something with one job, while others ask for stops before each of its
looks; or to ask for a stop. -/
inductive Deed where
  | act (verb : Verb) (n : Nat) (during : List (List Nat))
  | stop (n : Nat)

/-- The stops that have not been heard of yet are heard. -/
def World.heard (w : World) : World :=
  { w with stops := w.stops ++ w.interrupts.flatten, interrupts := [] }

namespace Forest

/-- The handles among some places. -/
def known (f : Forest) (places : List Nat) : List Nat := places.filter (· < f.nodes.length)

/-- The tokens of the handles among some places. -/
def tokens (f : Forest) (places : List Nat) : List Token :=
  places.filterMap fun n => f.nodes[n]?.map Node.token

/-- Do something with one job.  A job that never comes to an end is gone. -/
def act (f : Forest) (verb : Verb) (n : Nat) : Forest :=
  match f.nodes[n]? with
  | none => f
  | some node =>
    match node.stand.act verb f.world with
    | (.ok (stand, child), w) =>
      { f with
        world := w
        nodes := f.nodes.set n { node with stand := stand } ++ (child.map (.ofChild n)).toList }
    | (.error _, w) => { f with world := w, nodes := f.nodes.set n { node with stand := .gone } }

/-- **One step.** -/
def step (f : Forest) : Deed → Forest
  | .act verb n during =>
    let g := ({ f with world := { f.world with interrupts := during.map f.tokens } }).act verb n
    { g with world := g.world.heard, asked := f.asked ++ f.known during.flatten }
  | .stop n =>
    { f with world := f.world.requestStops (f.tokens [n]), asked := f.asked ++ f.known [n] }

/-- **Any number of steps.** -/
def after (f : Forest) (deeds : List Deed) : Forest := deeds.foldl step f

/-- **A forest of roots**, in a world in which nobody has asked for a stop. -/
def plant (roots : List ForkingJob) (w : World) : Forest where
  world := { w with stops := [], interrupts := [], alarm := none, relay := none }
  nodes := roots.mapIdx .ofRoot
  asked := []

end Forest

/-! ## Jobs ask for no stops -/

/-- **The stops asked for** in a world, heard or not, where none comes from elsewhere. -/
structure World.Asked (stops : List Token) (w : World) : Prop where
  stops : w.stops ++ w.interrupts.flatten = stops
  alarm : w.alarm = none
  relay : w.relay = none

namespace World.Asked

variable {stops : List Token} {w : World}

lemma look (h : w.Asked stops) : w.look.Asked stops := by
  refine ⟨?_, h.alarm, h.relay⟩
  rw [← h.stops]
  rcases hi : w.interrupts with _ | ⟨next, later⟩ <;> simp [World.look, hi]

lemma exchange (h : w.Asked stops) (r : Http.Request) : (w.exchange r).Asked stops := by
  have same : w.exchange r = { w.count r with answers := w.answers.drop 1 } := by
    simp [World.exchange, arrive, count, ring, passOn, h.alarm, h.relay]
  rw [same]
  exact ⟨h.stops, h.alarm, h.relay⟩

/-- Jobs that run for nobody keep the stops asked for. -/
lemma lasting (stops : List Token) :
    Lasting (World.Asked stops) (fun _ => True) fun _ => False where
  skipped _ _ := trivial
  tell _ h := ⟨h.stops, h.alarm, h.relay⟩
  print _ h := ⟨h.stops, h.alarm, h.relay⟩
  display _ _ h := ⟨h.stops, h.alarm, h.relay⟩
  look h := h.look
  exchange r h := h.exchange r
  relay _ _ := False.elim

lemma digests (stops : List Token) (request : Request) :
    request.Digests (Same (World.Asked stops)) :=
  (lasting stops).digests (fun _ _ h => ⟨h.stops, h.alarm, h.relay⟩) request

end World.Asked

/-- **Whatever is done with a job**, it asks for no stops. -/
lemma Stand.act_steady (stops : List Token) (verb : Verb) (stand : Stand) :
    Steady (Same (World.Asked stops)) (stand.act verb) := by
  have hR := (World.Asked.lasting stops).harmony
  have told : ∀ e : Event, e.isJobLevel → True := fun _ _ => trivial
  have finish (f : Forks) (outcome : String) :
      Steady (Same (World.Asked stops)) (discard (f.finish outcome)) :=
    Steady.bind (Harmony.finish told hR trivial outcome) fun _ => Steady.pure _
  cases verb with
  | run =>
      cases stand with
      | waiting job =>
          have run := Harmony.forkingJob_run told hR (j := job)
            (fun request _ => World.Asked.digests stops request) trivial
          refine Steady.bind run.settle fun result => ?_
          cases result <;> exact Steady.pure _
      | forking forks => exact Steady.pure _
      | gone => exact Steady.pure _
  | next =>
      cases stand with
      | waiting job => exact Steady.pure _
      | forking forks =>
          exact Steady.bind (Harmony.next told hR trivial) fun _ => Steady.pure _
      | gone => exact Steady.pure _
  | outputs =>
      cases stand with
      | waiting job => exact Steady.pure _
      | forking forks =>
          have taken : Steady (Same (World.Asked stops)) forks.takeOutputs := by
            rw [Forks.takeOutputs]
            split_ifs
            · exact Steady.bind (finish _ _) fun _ => Steady.pure _
            · exact Steady.bind (finish _ _) fun _ => Steady.pure _
          exact Steady.bind (Steady.bind taken fun _ => Steady.pure _) fun _ => Steady.pure _
      | gone => exact Steady.pure _
  | drop =>
      cases stand with
      | waiting job => exact Steady.pure _
      | forking forks => exact Steady.bind (finish _ _) fun _ => Steady.pure _
      | gone => exact Steady.pure _

/-! ## Every step -/

namespace Forest

variable {f : Forest} {n : Nat} {places : List Nat}

/-- **What every step keeps**: the jobs are a family, and the stops asked for are those that the
handles were asked for. -/
structure Sound (f : Forest) : Prop where
  family : Family f.nodes
  asked : f.world.Asked (f.tokens f.asked)
  settled : f.world.interrupts = []
  inside : ∀ a ∈ f.asked, a < f.nodes.length

/-- **What doing something with one job keeps.** -/
structure Acts (stops : List Token) (f g : Forest) : Prop where
  family : Family g.nodes
  world : g.world.Asked stops
  length : f.nodes.length ≤ g.nodes.length
  token {i : Nat} : i < f.nodes.length → g.nodes[i]?.map Node.token = f.nodes[i]?.map Node.token

/-- A list of jobs in which one has gone on, with perhaps one more behind. -/
lemma token_set_append {nodes : List Node} {node : Node} (hn : nodes[n]? = some node)
    (stand : Stand) (more : List Node) {i : Nat} (hi : i < nodes.length) :
    (nodes.set n { node with stand := stand } ++ more)[i]?.map Node.token =
      nodes[i]?.map Node.token := by
  rw [List.getElem?_append_left (by simpa using hi), List.getElem?_set]
  split_ifs with same bound
  · subst same
    rw [hn]
    rfl
  · exact absurd (same ▸ hi) bound
  · rfl

lemma act_acts {stops : List Token} (hf : Family f.nodes) (hw : f.world.Asked stops) (verb : Verb)
    (n : Nat) : Acts stops f (f.act verb n) := by
  rcases hn : f.nodes[n]? with _ | node
  · have same : f.act verb n = f := by rw [act, hn]
    rw [same]
    exact ⟨hf, hw, Nat.le_refl _, fun _ => rfl⟩
  · have kept : (node.stand.act verb f.world).2.Asked stops :=
      (Stand.act_steady stops verb node.stand).keeps hw
    have turns := Stand.act_turns verb (hf.stand hn) f.world
    rcases hx : node.stand.act verb f.world with ⟨h | ⟨stand, child⟩, w⟩
    · rw [hx] at kept
      have gone : f.act verb n =
          { f with world := w, nodes := f.nodes.set n { node with stand := .gone } } := by
        rw [act, hn]
        simp only [hx]
      have family : Family (f.nodes.set n { node with stand := .gone }) :=
        hf.goesOn (Family.rel_set hn ⟨rfl, rfl, fun _ => trivial, fun _ _ => trivial⟩)
      rw [gone]
      refine ⟨family, kept, by simp, fun hi => ?_⟩
      simpa using token_set_append hn .gone [] hi
    · rw [hx] at kept
      have goes : f.act verb n = { f with
          world := w
          nodes := f.nodes.set n { node with stand := stand } ++
            (child.map (.ofChild n)).toList } := by
        rw [act, hn]
        simp only [hx]
      rw [goes]
      exact ⟨hf.act hn (turns _ _ hx), kept, by simp, fun hi => token_set_append hn stand _ hi⟩

lemma tokens_append (f : Forest) (places more : List Nat) :
    f.tokens (places ++ more) = f.tokens places ++ f.tokens more :=
  List.filterMap_append

/-- A place without a handle has no token. -/
lemma tokens_known (f : Forest) (places : List Nat) : f.tokens (f.known places) = f.tokens places := by
  rw [tokens, tokens, known, List.filterMap_filter]
  refine List.filterMap_congr fun n _ => ?_
  by_cases hn : n < f.nodes.length <;> simp [hn]

/-- Whose token a place has stays what it was. -/
lemma tokens_of_acts {stops : List Token} {g : Forest} (h : Acts stops f g)
    (hp : ∀ a ∈ places, a < f.nodes.length) : g.tokens places = f.tokens places :=
  List.filterMap_congr fun a ha => h.token (hp a ha)

lemma lt_of_mem_known {a : Nat} (h : a ∈ f.known places) : a < f.nodes.length := by
  simpa using (List.mem_filter.1 h).2

/-- **One step.** -/
lemma Sound.step (h : f.Sound) (deed : Deed) : (f.step deed).Sound := by
  cases deed with
  | stop n =>
      have inside : ∀ a ∈ f.asked ++ f.known [n], a < f.nodes.length := fun a ha =>
        (List.mem_append.1 ha).elim (h.inside a) lt_of_mem_known
      have alone : f.world.requestStops (f.tokens [n]) =
          { f.world with stops := f.world.stops ++ f.tokens [n] } := by
        simp [World.requestStops, World.passOn, h.asked.relay]
      have stops : f.world.stops = f.tokens f.asked := by
        simpa [h.settled] using h.asked.stops
      have asked : f.world.stops ++ f.tokens [n] = f.tokens (f.asked ++ f.known [n]) := by
        rw [tokens_append, tokens_known, stops]
      refine ⟨h.family, ?_, ?_, inside⟩
      · show (f.world.requestStops (f.tokens [n])).Asked (f.tokens (f.asked ++ f.known [n]))
        rw [alone]
        exact ⟨by simpa [h.settled] using asked, h.asked.alarm, h.asked.relay⟩
      · show (f.world.requestStops (f.tokens [n])).interrupts = []
        rw [alone]
        exact h.settled
  | act verb n during =>
      have stops : f.world.stops = f.tokens f.asked := by
        simpa [h.settled] using h.asked.stops
      have calls : (during.map f.tokens).flatten = f.tokens during.flatten :=
        List.filterMap_flatten.symm
      have asked : f.world.stops ++ (during.map f.tokens).flatten =
          f.tokens (f.asked ++ f.known during.flatten) := by
        rw [tokens_append, tokens_known, stops, calls]
      have acts := act_acts (f := { f with
          world := { f.world with interrupts := during.map f.tokens } })
        h.family ⟨asked, h.asked.alarm, h.asked.relay⟩ verb n
      have inside : ∀ a ∈ f.asked ++ f.known during.flatten, a < f.nodes.length := fun a ha =>
        (List.mem_append.1 ha).elim (h.inside a) lt_of_mem_known
      have same := tokens_of_acts acts inside
      refine ⟨acts.family, ⟨?_, acts.world.alarm, acts.world.relay⟩, rfl,
        fun a ha => Nat.lt_of_lt_of_le (inside a ha) acts.length⟩
      show (_ ++ _) ++ [] = _
      rw [List.append_nil]
      exact acts.world.stops.trans same.symm

/-- **Any number of steps**, from the planting of the forest on. -/
theorem sound_after (roots : List ForkingJob) (w : World) (deeds : List Deed) :
    ((plant roots w).after deeds).Sound := by
  have planted : (plant roots w).Sound := ⟨Family.roots roots, ⟨rfl, rfl, rfl⟩, rfl, nofun⟩
  generalize plant roots w = f at planted
  induction deeds generalizing f with
  | nil => exact planted
  | cons deed deeds ih => exact ih (f.step deed) (planted.step deed)

/-! ## Whom a stop reaches -/

/-- **A stop is seen exactly by the jobs below.** -/
lemma Sound.isStopRequested_iff (h : f.Sound) {node : Node} (hn : f.nodes[n]? = some node) :
    f.world.isStopRequested node.token = true ↔ ∃ a ∈ f.asked, Above f.nodes a n := by
  have stops : f.world.stops = f.tokens f.asked := by simpa [h.settled] using h.asked.stops
  rw [World.isStopRequested, stops, stopRequested, List.any_eq_true]
  constructor
  · rintro ⟨token, ht, hp⟩
    obtain ⟨a, ha, named⟩ := List.mem_filterMap.1 ht
    obtain ⟨x, hx, rfl⟩ := Option.map_eq_some_iff.1 named
    exact ⟨a, ha, (h.family.above_iff hx hn).2 (List.isPrefixOf_iff_prefix.1 hp)⟩
  · rintro ⟨a, ha, above⟩
    obtain ⟨x, hx⟩ : ∃ x, f.nodes[a]? = some x := ⟨_, List.getElem?_eq_getElem (h.inside a ha)⟩
    have named : x.token ∈ f.tokens f.asked :=
      List.mem_filterMap.2 ⟨a, ha, by rw [hx]; rfl⟩
    exact ⟨x.token, named, List.isPrefixOf_iff_prefix.2 ((h.family.above_iff hx hn).1 above)⟩

end Forest

/-! ## What a job does that was asked to stop -/

namespace World

lemma heard_look (w : World) : w.look.heard = w.heard := by
  rcases hi : w.interrupts with _ | ⟨next, later⟩ <;> simp [heard, look, hi]

/-- A stop that was asked for is not forgotten. -/
lemma isStopRequested_look_of {w : World} {t : Token} (h : w.isStopRequested t = true) :
    w.look.isStopRequested t = true := by
  obtain ⟨s, hs, hp⟩ := List.any_eq_true.1 h
  exact List.any_eq_true.2 ⟨s, List.mem_append_left _ hs, hp⟩

/-- A world in which a job has told that it was cancelled. -/
def refuse (name : String) (t : Token) (w : World) : World :=
  { w with
    events := w.events ++ [.jobStarted name, .jobCompleted name "cancelled" 0]
    states := w.states ++ [(t, .running), (t, .stopped)] }

end World

/-- What is left of a job that was cancelled. -/
def Forks.childless (name : String) (t : Token) : Forks := ⟨name, t, [], [], 0, true⟩

namespace ForkingJob

lemma ended_of_stopped (name outcome : String) {t : Token} {w : World}
    (h : w.isStopRequested t = true) : Forks.ended name t outcome w =
      (.ok (.childless name t), (w.look.tell (.jobCompleted name "cancelled" 0)).display t .stopped) := by
  rw [Forks.ended, Forks.finish]
  simp only [Bool.false_eq_true, if_false]
  rw [bind_ok (checkStop_apply _ _), World.isStopRequested_look_of h]
  rfl

/-- A job that was asked to stop ends before its first stage. -/
lemma run_of_asked (j : ForkingJob) {w : World} (h : w.isStopRequested j.token = true) :
    ∃ outcome u, (u = j.started w ∨ u = (j.started w).look) ∧
      j.run w = Forks.ended j.name j.token outcome u := by
  have seen : (j.started w).look.isStopRequested j.token = true :=
    World.isStopRequested_look_of (w := j.started w) h
  rcases hj : j.stages with _ | ⟨head, rest⟩
  · exact ⟨"no_tasks", _, .inl rfl, run_of_nil hj⟩
  · exact ⟨"cancelled", _, .inr rfl, run_of_stopped hj seen⟩

/-- **A job that was asked to stop** tells of its start and that it was cancelled, and that is all
there is of it. -/
lemma run_stopped (j : ForkingJob) {w : World} (h : w.isStopRequested j.token = true) :
    ∃ v, j.run w = (.ok (.childless j.name j.token), v) ∧ v.heard = w.heard.refuse j.name j.token := by
  obtain ⟨outcome, u, hu, runs⟩ := j.run_of_asked h
  have asked : u.isStopRequested j.token = true := by
    rcases hu with rfl | rfl
    · exact h
    · exact World.isStopRequested_look_of (w := j.started w) h
  have heard : u.heard = (j.started w).heard := by
    rcases hu with rfl | rfl
    · rfl
    · exact World.heard_look _
  refine ⟨_, runs.trans (ended_of_stopped j.name outcome asked), ?_⟩
  have told : ((u.look.tell (.jobCompleted j.name "cancelled" 0)).display j.token .stopped).heard =
      (u.look.heard.tell (.jobCompleted j.name "cancelled" 0)).display j.token .stopped := rfl
  rw [told, World.heard_look, heard]
  simp [started, World.heard, World.refuse, World.tell, World.display]

end ForkingJob

/-- **Forks of which nothing comes**: no child and no output. -/
def Forks.Barren (f : Forks) : Prop :=
  ∀ w, f.next w = (.ok (.none, f), w) ∧ f.takeOutputs w = (.ok [], w)

namespace Forest

variable {f : Forest} {n : Nat}

/-- **A forest in which a job has refused to run**: it has told of its start and of its end.  Of the
context and the stages of the job there is no trace. -/
def refused (f : Forest) (n : Nat) (node : Node) (name : String) (during : List (List Nat)) :
    Forest where
  world := { f.world with
    stops := f.world.stops ++ f.tokens during.flatten }.refuse name node.token
  nodes := f.nodes.set n { node with stand := .forking (.childless name node.token) }
  asked := f.asked ++ f.known during.flatten

/-- **Stops reach those below**, and nobody else; and those below refuse to run. -/
structure StopsReach (f : Forest) : Prop where
  flag {n : Nat} {node : Node} : f.nodes[n]? = some node →
    (f.world.isStopRequested node.token = true ↔ ∃ a ∈ f.asked, Above f.nodes a n)
  refuses {n : Nat} {node : Node} {job : ForkingJob} (during : List (List Nat)) :
    f.nodes[n]? = some node → node.stand = .waiting job → (∃ a ∈ f.asked, Above f.nodes a n) →
      f.step (.act .run n during) = f.refused n node job.name during ∧
        (Forks.childless job.name node.token).Barren

lemma Sound.step_run (h : f.Sound) {node : Node} {job : ForkingJob} (during : List (List Nat))
    (hn : f.nodes[n]? = some node) (hj : node.stand = .waiting job)
    (hs : f.world.isStopRequested node.token = true) :
    f.step (.act .run n during) = f.refused n node job.name during := by
  have token : job.token = node.token := by
    have own := h.family.stand hn
    rwa [hj] at own
  rw [← token] at hs
  obtain ⟨v, runs, heard⟩ :=
    job.run_stopped (w := { f.world with interrupts := during.map f.tokens }) hs
  have acts : node.stand.act .run { f.world with interrupts := during.map f.tokens } =
      (.ok (.forking (.childless job.name job.token), .none), v) := by
    have settled : settle job.run { f.world with interrupts := during.map f.tokens } =
        (.ok (.ok (.childless job.name job.token)), v) := by
      rw [settle, runs]
    rw [hj]
    exact bind_ok settled _
  have calls : (during.map f.tokens).flatten = f.tokens during.flatten :=
    List.filterMap_flatten.symm
  have world : v.heard = { f.world with
      stops := f.world.stops ++ f.tokens during.flatten }.refuse job.name node.token := by
    rw [heard, World.heard, calls, token]
    simp [h.settled]
  rw [Forest.step, act]
  simp only [hn, acts, Option.map_none, Option.toList_none, List.append_nil]
  rw [world, refused, token]

/-- **A stop reaches exactly the subtree of the job that it is asked of.**  Whatever was done in a
forest, and whenever the stops were asked for, they are seen by the jobs that they were asked of
and by those forked from them; and a job that sees one does nothing when it is run. -/
theorem stop_reaches (roots : List ForkingJob) (w : World) (deeds : List Deed) :
    ((plant roots w).after deeds).StopsReach where
  flag := (sound_after roots w deeds).isStopRequested_iff
  refuses during hn hj above := by
    have h := sound_after roots w deeds
    exact ⟨h.step_run during hn hj ((h.isStopRequested_iff hn).2 above), fun _ => ⟨rfl, rfl⟩⟩

/-! Two roots, of which the first one is run, has a child, is let go of and then asked to stop: the
stop reaches it and its child. -/

example :
    let root : ForkingJob := ⟨"sync", [], [.split ⟨"ids", ⟨"a", .literal⟩, none, "id"⟩,
      .process ⟨"mark", [], []⟩], []⟩
    let f := (plant [root, root] { functions := [], network := .absent, answers := [] }).after
      [.act .run 0 [], .act .next 0 [], .act .drop 0 [], .stop 0]
    f.nodes.map (fun node => f.world.isStopRequested node.token) = [true, false, true] := rfl

end Forest

end Connector
