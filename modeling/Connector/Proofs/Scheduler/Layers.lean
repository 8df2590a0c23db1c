import Connector.Proofs.Scheduler.Levels
import Connector.Proofs.Scheduler.Queue
import Mathlib.Algebra.BigOperators.Group.List.Basic
import Mathlib.Algebra.Order.Ring.Nat

/-!
# What the scheduler computes

A chain of stages can be applied to a context stage by stage: each stage to everything that the one
before has yielded.  That is all a scheduler run does, for all of its jobs at once.

* `Stage.image`, `Stage.faults` — a stage applied to contexts, and the errors it meets there.
* `ForkingJob.layer` — the contexts of a job after a number of stages.
* `Scheduler.generation_layer` — a level of one root is a layer.
* **`Scheduler.run_composes`** — the report of a run, in terms of the layers of its jobs.
-/

namespace Connector

open Work

/-! ## Layers -/

namespace Stage

/-- **A stage applied to contexts**, one after the other; a context on which it fails yields
nothing. -/
def image (functions : Registry) (stage : Stage) (contexts : List Context) : List Context :=
  contexts.flatMap fun c =>
    match stage.outputs functions c with
    | .ok outputs => outputs
    | .error _ => []

/-- The errors of a stage on contexts, in order. -/
def faults (functions : Registry) (stage : Stage) (contexts : List Context) : List RunError :=
  contexts.filterMap fun c =>
    match stage.outputs functions c with
    | .ok _ => none
    | .error e => some e

end Stage

namespace ForkingJob

/-- **The contexts of a job after `i` stages**: its own at first, and then those that the next
stage yields on all of them. -/
def layer (functions : Registry) (j : ForkingJob) (i : Nat) : List Context :=
  (j.stages.take i).foldl (fun contexts stage => stage.image functions contexts) [j.context]

/-- The errors of the next stage on the contexts of a layer. -/
def layerFaults (functions : Registry) (j : ForkingJob) (i : Nat) : List RunError :=
  match j.stages[i]? with
  | some stage => stage.faults functions (j.layer functions i)
  | none => []

lemma layer_succ (functions : Registry) (j : ForkingJob) {i : Nat} (h : i < j.stages.length) :
    j.layer functions (i + 1) = (j.stages[i]).image functions (j.layer functions i) := by
  rw [layer, List.take_succ_eq_append_getElem h, List.foldl_append]
  rfl

end ForkingJob

namespace Scheduler

variable {functions : Registry} {stage : Stage} {rest : List Stage} {queue : List ForkingJob}

/-- Whether all jobs of a queue have the same chain of stages. -/
def Uniform (stages : List Stage) (queue : List ForkingJob) : Prop :=
  ∀ j ∈ queue, j.stages = stages

lemma contexts_childrenOf (parent : String) (token : Token) (stages : List Stage) (n : Nat)
    (outputs : List Context) :
    (Forks.childrenOf parent token stages n outputs).map (·.context) = outputs := by
  induction outputs generalizing n with
  | nil => rfl
  | cons context outputs ih => simp [Forks.childrenOf, ih]

/-- The next level has the contexts that the stage yields. -/
lemma contexts_forks (functions : Registry) (h : Uniform (stage :: rest) queue) (hr : rest ≠ []) :
    Uniform rest (queue.flatMap (·.forks functions)) ∧
      (queue.flatMap (·.forks functions)).map (·.context) =
        stage.image functions (queue.map (·.context)) := by
  obtain ⟨head, more, rfl⟩ := List.exists_cons_of_ne_nil hr
  induction queue with
  | nil => exact ⟨fun j hj => (List.not_mem_nil hj).elim, rfl⟩
  | cons j queue ih =>
      obtain ⟨same, contexts⟩ := ih fun k hk => h k (List.mem_cons_of_mem _ hk)
      have stages : j.stages = stage :: head :: more := h j (List.mem_cons_self ..)
      have forks : j.forks functions = match stage.outputs functions j.context with
          | .ok outputs => Forks.childrenOf j.name j.token (head :: more) 0 outputs
          | .error _ => [] := by
        rw [ForkingJob.forks, ForkingJob.outputs_of_stages stages, stages]
        rcases stage.outputs functions j.context with e | outputs <;> rfl
      constructor
      · intro child hc
        rw [List.flatMap_cons, List.mem_append] at hc
        rcases hc with hc | hc
        · rw [forks] at hc
          split at hc
          · exact (ForkingJob.of_mem_childrenOf hc).1
          · cases hc
        · exact same child hc
      · rw [List.flatMap_cons, List.map_append, contexts, forks, List.map_cons, Stage.image,
          Stage.image, List.flatMap_cons]
        congr 1
        split
        · exact contexts_childrenOf _ _ _ _ _
        · rfl

/-- After the last stage there is no level, and what the stage yields are results. -/
lemma results_of_last (h : Uniform [stage] queue) :
    queue.flatMap (·.forks functions) = [] ∧
      queue.flatMap (·.results functions) = stage.image functions (queue.map (·.context)) := by
  induction queue with
  | nil => exact ⟨rfl, rfl⟩
  | cons j queue ih =>
      obtain ⟨forks, results⟩ := ih fun k hk => h k (List.mem_cons_of_mem _ hk)
      have stages : j.stages = [stage] := h j (List.mem_cons_self ..)
      refine ⟨?_, ?_⟩
      · have none : j.forks functions = [] := by simp [ForkingJob.forks, stages]
        rw [List.flatMap_cons, forks, none, List.append_nil]
      · rw [List.flatMap_cons, results, List.map_cons, Stage.image, Stage.image, List.flatMap_cons]
        congr 1
        rw [ForkingJob.results, ForkingJob.outputs_of_stages stages, stages]
        rcases stage.outputs functions j.context with e | outputs <;> rfl

/-- Before the last stage there are no results. -/
lemma results_eq_nil (h : Uniform (stage :: rest) queue) (hr : rest ≠ []) :
    queue.flatMap (·.results functions) = [] := by
  obtain ⟨head, more, rfl⟩ := List.exists_cons_of_ne_nil hr
  refine List.flatMap_eq_nil_iff.2 fun j hj => ?_
  simp [ForkingJob.results, h j hj]

/-- The failures of a level are those of its stage. -/
lemma failures_eq (h : Uniform (stage :: rest) queue) :
    (queue.filterMap (·.failure functions)).map (·.2) =
      stage.faults functions (queue.map (·.context)) := by
  induction queue with
  | nil => rfl
  | cons j queue ih =>
      have stages : j.stages = stage :: rest := h j (List.mem_cons_self ..)
      have later := ih fun k hk => h k (List.mem_cons_of_mem _ hk)
      rw [Stage.faults] at later ⊢
      rcases ho : stage.outputs functions j.context with e | outputs
      · have failure : j.failure functions = some (j.name, e) := by
          simp [ForkingJob.failure, ForkingJob.outputs_of_stages stages, ho]
        simp [failure, ho, later]
      · have failure : j.failure functions = none := by
          simp [ForkingJob.failure, ForkingJob.outputs_of_stages stages, ho]
        simp [failure, ho, later]

/-- **A level is a layer**: as long as there are stages left, the jobs of a level have the contexts
of the stages so far and the stages that are left. -/
lemma generation_layer (functions : Registry) (i : Nat) {stages : List Stage}
    (h : Uniform stages queue) (hi : i < stages.length) :
    Uniform (stages.drop i) (generation functions i queue) ∧
      (generation functions i queue).map (·.context) =
        (stages.take i).foldl (fun contexts stage => stage.image functions contexts)
          (queue.map (·.context)) := by
  induction i generalizing stages queue with
  | zero => exact ⟨h, rfl⟩
  | succ i ih =>
      rcases stages with _ | ⟨stage, rest⟩
      · cases hi
      · have more : i < rest.length := Nat.lt_of_succ_lt_succ hi
        have inner : rest ≠ [] := List.ne_nil_of_length_pos (Nat.zero_lt_of_lt more)
        obtain ⟨uniform, contexts⟩ := contexts_forks functions h inner
        obtain ⟨drop, layers⟩ := ih uniform more
        exact ⟨drop, layers.trans (by rw [contexts]; rfl)⟩

/-- Behind the last stage there are no levels. -/
lemma generation_eq_nil (functions : Registry) (i : Nat) {stages : List Stage}
    (h : Uniform stages queue) (hs : stages ≠ []) (hi : stages.length ≤ i) :
    generation functions i queue = [] := by
  obtain ⟨n, hn⟩ : ∃ n, stages.length = n + 1 :=
    Nat.exists_eq_add_one_of_ne_zero fun h => hs (List.length_eq_zero_iff.1 h)
  obtain ⟨uniform, -⟩ := generation_layer functions n h (by omega)
  have last : ∃ stage, stages.drop n = [stage] := List.length_eq_one_iff.1 (by simp [hn])
  obtain ⟨stage, hl⟩ := last
  have next : generation functions (n + 1) queue = [] := by
    rw [generation_succ]
    exact (results_of_last (hl ▸ uniform)).1
  obtain ⟨k, rfl⟩ := Nat.exists_eq_add_of_le (hn ▸ hi)
  induction k with
  | zero => exact next
  | succ k ih =>
      rw [← Nat.add_assoc, generation_succ, ih (by omega)]
      rfl

section Root

variable {j : ForkingJob} {i : Nat}

lemma uniform_singleton (j : ForkingJob) : Uniform j.stages [j] := by
  simp [Uniform]

lemma generation_root (hi : i < j.stages.length) :
    (generation functions i [j]).map (·.context) = j.layer functions i :=
  (generation_layer functions i (uniform_singleton j) hi).2

lemma generation_root_eq_nil (hj : j.IsLocal) (hi : j.stages.length ≤ i) :
    generation functions i [j] = [] :=
  generation_eq_nil functions i (uniform_singleton j) hj.1 hi

/-- The jobs of a level of one root, by number. -/
lemma length_generation_root (hj : j.IsLocal) (i : Nat) :
    (generation functions i [j]).length =
      if i < j.stages.length then (j.layer functions i).length else 0 := by
  split_ifs with hi
  · rw [← generation_root hi, List.length_map]
  · rw [generation_root_eq_nil hj (Nat.not_lt.1 hi), List.length_nil]

/-- The results of a level of one root: there are some after the last stage only. -/
lemma results_root (hj : j.IsLocal) (i : Nat) :
    (generation functions i [j]).flatMap (·.results functions) =
      if j.stages.length = i + 1 then j.layer functions j.stages.length else [] := by
  rcases Nat.lt_or_ge i j.stages.length with hi | hi
  · have uniform := (generation_layer functions i (uniform_singleton j) hi).1
    rw [List.drop_eq_getElem_cons hi] at uniform
    split_ifs with hn
    · rw [List.drop_of_length_le (by omega)] at uniform
      rw [(results_of_last uniform).2, generation_root hi, hn, j.layer_succ functions hi]
    · have more : j.stages.drop (i + 1) ≠ [] := by
        rw [ne_eq, List.drop_eq_nil_iff]
        omega
      exact results_eq_nil uniform more
  · rw [generation_root_eq_nil hj hi, if_neg (by omega)]
    rfl

/-- The failures of a level of one root. -/
lemma failures_root (hj : j.IsLocal) (i : Nat) :
    ((generation functions i [j]).filterMap (·.failure functions)).map (·.2) =
      j.layerFaults functions i := by
  rw [ForkingJob.layerFaults]
  rcases Nat.lt_or_ge i j.stages.length with hi | hi
  · have uniform := (generation_layer functions i (uniform_singleton j) hi).1
    rw [List.drop_eq_getElem_cons hi] at uniform
    rw [failures_eq uniform, generation_root hi, List.getElem?_eq_getElem hi]
  · rw [generation_root_eq_nil hj hi, List.getElem?_eq_none hi]
    rfl

end Root

/-! ## The report of a run -/

/-- Levels behind the longest chain are empty. -/
lemma flatMap_range_of_le {α : Type} {f : Nat → List α} {n m : Nat} (hn : n ≤ m)
    (h : ∀ i, n ≤ i → f i = []) : (List.range m).flatMap f = (List.range n).flatMap f := by
  obtain ⟨k, rfl⟩ := Nat.exists_eq_add_of_le hn
  rw [List.range_add, List.flatMap_append, List.flatMap_map,
    List.flatMap_eq_nil_iff.2 fun i _ => h (n + i) (Nat.le_add_right n i), List.append_nil]

/-- Counting level by level is counting root by root. -/
lemma sum_levels (roots : List ForkingJob) (m : Nat) (f : ForkingJob → Nat → Nat) :
    ((List.range m).map fun i => (roots.map fun r => f r i).sum).sum =
      (roots.map fun r => ((List.range m).map (f r)).sum).sum := by
  induction roots with
  | nil => simp
  | cons r roots ih => simp only [List.map_cons, List.sum_cons, List.sum_map_add, ih]

/-- Only the first `n` of the numbers counted are not zero. -/
lemma sum_range_ite {n m : Nat} (h : n ≤ m) (f : Nat → Nat) :
    ((List.range m).map fun i => if i < n then f i else 0).sum = ((List.range n).map f).sum := by
  obtain ⟨k, rfl⟩ := Nat.exists_eq_add_of_le h
  have early : (List.range n).map (fun i => if i < n then f i else 0) = (List.range n).map f :=
    List.map_congr_left fun i hi => if_pos (List.mem_range.1 hi)
  have never (i : Nat) : ¬ n + i < n := by omega
  have late : ((List.range k).map fun i => if n + i < n then f (n + i) else 0).sum = 0 := by
    simp [never]
  rw [List.range_add, List.map_append, List.sum_append, early, List.map_map]
  exact (congrArg _ late).trans (Nat.add_zero _)

section Roots

variable {roots : List ForkingJob}

lemma length_generation (hj : ∀ r ∈ roots, r.IsLocal) (i : Nat) :
    (generation functions i roots).length =
      (roots.map fun r => if i < r.stages.length then (r.layer functions i).length else 0).sum := by
  rw [generation_eq_flatMap, List.length_flatMap]
  exact congrArg List.sum (List.map_congr_left fun r hr => length_generation_root (hj r hr) i)

lemma results_generation (hj : ∀ r ∈ roots, r.IsLocal) (i : Nat) :
    (generation functions i roots).flatMap (·.results functions) =
      (roots.filter fun r => r.stages.length = i + 1).flatMap fun r =>
        r.layer functions r.stages.length := by
  rw [generation_eq_flatMap, List.flatMap_assoc]
  induction roots with
  | nil => rfl
  | cons r rest ih =>
      have later := ih fun r hr => hj r (List.mem_cons_of_mem _ hr)
      rw [List.flatMap_cons, results_root (hj r (List.mem_cons_self ..)), later]
      by_cases hn : r.stages.length = i + 1 <;> simp [hn]

lemma failures_generation (hj : ∀ r ∈ roots, r.IsLocal) (i : Nat) :
    ((generation functions i roots).filterMap (·.failure functions)).map (·.2) =
      roots.flatMap fun r => r.layerFaults functions i := by
  rw [generation_eq_flatMap, List.filterMap_flatMap, List.map_flatMap]
  exact List.flatMap_congr fun r hr => failures_root (hj r hr) i

end Roots

end Scheduler

/-- **A report is composed of the layers** of the chains that were run. -/
structure SchedulerReport.Composes (functions : Registry) (roots : List ForkingJob)
    (report : SchedulerReport) : Prop where
  cancelled : report.cancelled = false
  /-- The last layers of all roots: shorter chains come first, and chains of one length in the
  order in which they were given. -/
  outputs : report.outputs = (List.range (Scheduler.longestChain roots)).flatMap fun i =>
    (roots.filter fun r => r.stages.length = i + 1).flatMap fun r =>
      r.layer functions r.stages.length
  /-- All layers but the last one. -/
  executed : report.executed = (roots.map fun r =>
    ((List.range r.stages.length).map fun i => (r.layer functions i).length).sum).sum
  /-- All layers but the first and the last one. -/
  forked : report.forked = (roots.map fun r =>
    ((List.range (r.stages.length - 1)).map fun i => (r.layer functions (i + 1)).length).sum).sum
  /-- One failure for every context of a layer on which the next stage fails. -/
  failures : report.failures.map (·.2) = (List.range (Scheduler.longestChain roots)).flatMap
    fun i => roots.flatMap fun r => r.layerFaults functions i

namespace Scheduler

/-- What is added up over all levels is composed of layers. -/
lemma composes_generations (functions : Registry) {roots : List ForkingJob}
    (hj : ∀ r ∈ roots, r.IsLocal) {n : Nat} (hn : longestChain roots ≤ n) :
    SchedulerReport.Composes functions roots
      (SchedulerReport.plus functions {} (generations functions n roots)) where
  cancelled := rfl
  outputs := by
    show [] ++ (generations functions n roots).flatMap (·.results functions) = _
    rw [List.nil_append, generations, List.flatMap_assoc]
    simp only [results_generation hj]
    refine flatMap_range_of_le hn fun i hi => ?_
    have none : (roots.filter fun r => r.stages.length = i + 1) = [] := by
      refine List.filter_eq_nil_iff.2 fun r hr => ?_
      have := length_le_longestChain roots r hr
      simp only [decide_eq_true_eq]
      omega
    rw [none, List.flatMap_nil]
  executed := by
    show 0 + (generations functions n roots).length = _
    rw [Nat.zero_add, generations, List.length_flatMap]
    simp only [length_generation hj, sum_levels]
    refine congrArg List.sum (List.map_congr_left fun r hr => ?_)
    exact sum_range_ite (Nat.le_trans (length_le_longestChain roots r hr) hn) _
  forked := by
    show 0 + ((generations functions n roots).flatMap (·.forks functions)).length = _
    rw [Nat.zero_add, generations, List.flatMap_assoc, List.length_flatMap]
    simp only [← generation_succ, length_generation hj, sum_levels, ← Nat.lt_sub_iff_add_lt]
    refine congrArg List.sum (List.map_congr_left fun r hr => ?_)
    have := length_le_longestChain roots r hr
    exact sum_range_ite (by omega) fun i => (r.layer functions (i + 1)).length
  failures := by
    show (List.map (·.2) ([] ++ (generations functions n roots).filterMap fun j =>
      j.failure functions)) = _
    rw [List.nil_append, generations, List.filterMap_flatMap, List.map_flatMap]
    simp only [failures_generation hj]
    refine flatMap_range_of_le hn fun i hi => List.flatMap_eq_nil_iff.2 fun r hr => ?_
    have := length_le_longestChain roots r hr
    rw [ForkingJob.layerFaults, List.getElem?_eq_none (by omega)]

/-- **The scheduler computes the composition of the stages of its jobs**: the queue of the jobs is
worked off, first come, first served, and what that comes to is composed of layers. -/
theorem run_composes (s : Scheduler) (hl : s.late = none) (roots : List ForkingJob)
    (hj : ∀ r ∈ roots, r.IsLocal) (w : World) (hs : w.stops = []) (hi : w.interrupts = []) :
    ∃ report u, s.run roots w = (.ok report, u) ∧
      WorksOff s ⟨{}, roots, false⟩ w (.ok report, u) ∧ report.Composes w.functions roots := by
  have runs : Gives w.functions (s.run roots) _ := levels_gives hl _ roots hj {} false
  obtain ⟨u, -, hx⟩ := runs w ⟨rfl, hs, hi⟩
  refine ⟨_, u, hx, (run_worksOff s roots w _).2 hx, composes_generations w.functions hj ?_⟩
  rw [levelBound]
  omega

/-- Two chains over pieces of a text, of one stage and of two. -/
def pieceJobs : List ForkingJob :=
  let pieces : Stage := .split ⟨"pieces", ⟨"a,b", .literal⟩, some ",", "piece"⟩
  let mark : Stage := .process ⟨"mark", [], [⟨⟨"set_var", [⟨"1", .literal⟩]⟩, some "mark"⟩]⟩
  [⟨"both", [], [pieces, mark], [1]⟩, ⟨"one", [], [pieces], [2]⟩]

/-- A world with the function that marks. -/
def pieceWorld : World where
  functions := [("set_var", fun inputs => .ok ⟨inputs.headD .null, ""⟩)]
  network := .absent
  answers := []

theorem run_composes_pieces :
    ∃ report u, run ⟨[0], none, none⟩ pieceJobs pieceWorld = (.ok report, u) ∧
      WorksOff ⟨[0], none, none⟩ ⟨{}, pieceJobs, false⟩ pieceWorld (.ok report, u) ∧
        report.Composes pieceWorld.functions pieceJobs :=
  run_composes ⟨[0], none, none⟩ rfl pieceJobs
    (by simp [pieceJobs, ForkingJob.IsLocal, Stage.isLocal]) pieceWorld rfl rfl

end Scheduler

end Connector
