import Connector.Proofs.Scheduler.Ledger
import Connector.Proofs.Text.Cutting
import Mathlib.Data.List.Nodup

/-!
# Whose child a job is

A child is called after its parent, with a hash sign and a number.  The number holds no hash sign,
so a name tells whose child a job is, however long the line of its ancestors.  No job runs twice,
so none tells of the same child twice; and where the roots have names of their own without hash
signs, no two jobs of a run share a name.

* `ForkingJob.childName`, `ForkingJob.parentName` — from a parent to a child, and back.
* `Known` — a job that is a root, or that its parent has told of.
* `Lineage` — what the events of a run say of its jobs.
* `Queued`, `Queued.submit`, `Queued.ran` — the queue and the events, kept by a job that is
  submitted and by one that runs.
* **`Scheduler.run_lineage`** — the jobs of a run.
-/

namespace Connector

/-! ## Names of children -/

namespace ForkingJob

/-- **The name of a child**, by its number. -/
def childName (parent : String) (number : Nat) : String := parent ++ "#" ++ toString number

/-- **The name of a parent**: what stands in front of the last hash sign. -/
def parentName (name : String) : String :=
  String.ofList ((name.toList.reverse.dropWhile (· ≠ '#')).drop 1).reverse

variable {parent parent' : String} {number number' : Nat}

lemma toList_childName (parent : String) (number : Nat) :
    (childName parent number).toList = parent.toList ++ '#' :: (toString number).toList := by
  simp [childName]

/-- There is no hash sign in a number. -/
lemma hash_not_mem_number (number : Nat) : '#' ∉ (toString number).toList :=
  Text.not_mem_number (by decide) number

lemma hash_mem_childName (parent : String) (number : Nat) :
    '#' ∈ (childName parent number).toList := by
  rw [toList_childName]
  exact List.mem_append_right _ List.mem_cons_self

/-- The number is cut off again. -/
@[simp] lemma parentName_childName (parent : String) (number : Nat) :
    parentName (childName parent number) = parent := by
  have digits : '#' ∉ (toString number).toList.reverse :=
    mt List.mem_reverse.1 (hash_not_mem_number number)
  rw [parentName, toList_childName, List.reverse_append, List.reverse_cons, List.append_assoc,
    List.singleton_append, Text.dropWhile_ne digits, List.drop_one, List.tail_cons,
    List.reverse_reverse, String.ofList_toList]

/-- **A name belongs to one child of one parent.** -/
lemma childName_injective (h : childName parent number = childName parent' number') :
    parent = parent' ∧ number = number' := by
  have same := congrArg String.toList h
  rw [toList_childName, toList_childName] at same
  obtain ⟨parents, numbers⟩ :=
    Text.append_cons_last (hash_not_mem_number number) (hash_not_mem_number number') same
  exact ⟨String.toList_inj.1 parents, Text.number_injective numbers⟩

end ForkingJob

open ForkingJob

/-- The twelfth child of a first one and the second child of an eleventh one. -/
example : childName "a#1" 12 = "a#1#12" ∧ childName "a#11" 2 = "a#11#2" ∧
    parentName "a#1#12" = "a#1" := by decide +kernel

/-! ## What events say of jobs -/

namespace Event

/-- The job that has started. -/
def started? : Event → Option String
  | .jobStarted job => some job
  | _ => none

/-- A job and the child that it has got. -/
def forked? : Event → Option (String × String)
  | .jobForked job child => some (job, child)
  | _ => none

variable {log : List Event} {job child : String}

lemma mem_started : job ∈ log.filterMap started? ↔ .jobStarted job ∈ log := by
  constructor
  · intro h
    obtain ⟨e, he, same⟩ := List.mem_filterMap.1 h
    cases e <;> cases same
    exact he
  · exact fun h => List.mem_filterMap.2 ⟨_, h, rfl⟩

lemma mem_forked : (job, child) ∈ log.filterMap forked? ↔ .jobForked job child ∈ log := by
  constructor
  · intro h
    obtain ⟨e, he, same⟩ := List.mem_filterMap.1 h
    cases e <;> cases same
    exact he
  · exact fun h => List.mem_filterMap.2 ⟨_, h, rfl⟩

end Event

/-- **A job is known**: it is a root, or its parent has started and told of it. -/
inductive Known (roots : List String) (log : List Event) : String → Prop where
  | root {name : String} (h : name ∈ roots) : Known roots log name
  | child {parent : String} (number : Nat) (hs : .jobStarted parent ∈ log)
      (hf : .jobForked parent (childName parent number) ∈ log) :
      Known roots log (childName parent number)

/-- **What events say of the jobs of a run.**  No name starts twice, none is told of twice as that
of a child, and whatever starts is a root or was told of before, once, by the job that it is named
after. -/
structure Lineage (roots : List String) (log : List Event) : Prop where
  started : (log.filterMap Event.started?).Nodup
  children : ((log.filterMap Event.forked?).map (·.2)).Nodup
  announced : ∀ before name after, log = before ++ .jobStarted name :: after →
    name ∈ roots ∨ (∃ number, name = childName (parentName name) number) ∧
      .jobStarted (parentName name) ∈ before ∧
      (before.filterMap Event.forked?).filter (·.2 = name) = [(parentName name, name)]

/-- **The queue of a run and its events**: what waits and what has started are different jobs, and
all of them are known. -/
structure Queued (roots queued : List String) (log : List Event) : Prop where
  distinct : (log.filterMap Event.started? ++ queued).Nodup
  children : ((log.filterMap Event.forked?).map (·.2)).Nodup
  forked : ∀ parent child, .jobForked parent child ∈ log →
    .jobStarted parent ∈ log ∧ ∃ number, child = childName parent number
  waiting : ∀ name ∈ queued, Known roots log name
  known : ∀ before name after, log = before ++ .jobStarted name :: after → Known roots before name

variable {roots queued : List String} {log more : List Event} {name parent : String} {number : Nat}

namespace Known

lemma mono {roots' : List String} (h : Known roots log name) (hr : roots ⊆ roots')
    (hl : log ⊆ more) : Known roots' more name := by
  cases h with
  | root h => exact .root (hr h)
  | child number hs hf => exact .child number (hl hs) (hl hf)

/-- A child is known once its parent has started. -/
lemma parent_started (h : Known roots log (childName parent number))
    (plain : ∀ root ∈ roots, '#' ∉ root.toList) : .jobStarted parent ∈ log := by
  generalize same : childName parent number = name at h
  cases h with
  | root h => exact absurd (same ▸ hash_mem_childName parent number) (plain _ h)
  | child number' hs hf =>
      obtain ⟨rfl, -⟩ := childName_injective same
      exact hs

/-- A name without a hash sign is known as that of a root. -/
lemma mem_roots (h : Known roots log name) (plain : '#' ∉ name.toList) : name ∈ roots := by
  cases h with
  | root h => exact h
  | child number hs hf => exact absurd (hash_mem_childName _ number) plain

end Known

/-- Of pairs with different second parts there is one for each. -/
lemma filter_snd_eq_singleton {α β : Type} [DecidableEq β] {pairs : List (α × β)} {a : α} {b : β}
    (hn : (pairs.map (·.2)).Nodup) (h : (a, b) ∈ pairs) :
    pairs.filter (·.2 = b) = [(a, b)] := by
  induction pairs with
  | nil => cases h
  | cons pair rest ih =>
      rw [List.map_cons, List.nodup_cons] at hn
      obtain ⟨fresh, hn⟩ := hn
      rcases List.mem_cons.1 h with rfl | h
      · have others : ∀ other ∈ rest, ¬decide (other.2 = b) = true := fun other ho same =>
          fresh (List.mem_map.2 ⟨other, ho, of_decide_eq_true same⟩)
        rw [List.filter_cons_of_pos (by simp), List.filter_eq_nil_iff.2 others]
      · have differs : pair.2 ≠ b := fun same => fresh (same ▸ List.mem_map_of_mem h)
        rw [List.filter_cons_of_neg (by simpa using differs), ih hn h]

namespace Queued

/-- What is told of a queue so far has a lineage. -/
lemma lineage (h : Queued roots queued log) : Lineage roots log where
  started := (List.nodup_append.1 h.distinct).1
  children := h.children
  announced before name after split := by
    have known := h.known before name after split
    cases known with
    | root h => exact .inl h
    | @child parent number hs hf =>
        refine .inr ⟨⟨number, by rw [parentName_childName]⟩, ?_⟩
        have once : ((before.filterMap Event.forked?).map (·.2)).Nodup := by
          have all := h.children
          rw [split, List.filterMap_append, List.map_append] at all
          exact (List.nodup_append.1 all).1
        rw [parentName_childName]
        exact ⟨hs, filter_snd_eq_singleton once (Event.mem_forked.2 hf)⟩

/-- Before there is any event, the roots wait. -/
lemma nil (h : roots.Nodup) : Queued roots roots [] where
  distinct := h
  children := List.nodup_nil
  forked _ _ := nofun
  waiting _ hn := .root hn
  known before name after split := by simp at split

/-- Whatever has started or waits is known. -/
lemma known_of_mem (h : Queued roots queued log)
    (hm : name ∈ log.filterMap Event.started? ++ queued) : Known roots log name := by
  rcases List.mem_append.1 hm with hm | hm
  · obtain ⟨before, after, split⟩ := List.append_of_mem (Event.mem_started.1 hm)
    refine (h.known before name after split).mono (List.Subset.refl _) ?_
    rw [split]
    exact List.subset_append_left _ _
  · exact h.waiting name hm

/-- A job that has not started has no child among the jobs of the run. -/
lemma fresh (h : Queued roots queued log) (plain : ∀ root ∈ roots, '#' ∉ root.toList)
    (hs : .jobStarted parent ∉ log) (number : Nat) :
    childName parent number ∉ log.filterMap Event.started? ++ queued := fun hm =>
  hs ((h.known_of_mem hm).parent_started plain)

/-- **A root is submitted** to the end of the queue. -/
lemma submit (h : Queued roots queued log) (distinct : (roots ++ [name]).Nodup)
    (plain : '#' ∉ name.toList) : Queued (roots ++ [name]) (queued ++ [name]) log where
  distinct := by
    have new : name ∉ roots := List.disjoint_singleton.1 (List.nodup_append'.1 distinct).2.2
    have absent : name ∉ log.filterMap Event.started? ++ queued := fun hm =>
      new ((h.known_of_mem hm).mem_roots plain)
    rw [← List.append_assoc]
    exact h.distinct.append (List.nodup_singleton name) (List.disjoint_singleton.2 absent)
  children := h.children
  forked := h.forked
  waiting other ho := by
    rcases List.mem_append.1 ho with ho | ho
    · exact (h.waiting other ho).mono (List.subset_append_left _ _) (List.Subset.refl _)
    · exact .root (List.mem_append_right _ ho)
  known before other after split :=
    (h.known before other after split).mono (List.subset_append_left _ _) (List.Subset.refl _)

end Queued

/-- **What one job tells**: its start, and behind it the children that it has got. -/
structure Tells (name : String) (count : Nat) (block : List Event) : Prop where
  started : ∃ later, block = .jobStarted name :: later ∧ later.filterMap Event.started? = []
  forked : block.filterMap Event.forked? =
    (List.range' 1 count).map fun number => (name, childName name number)

namespace Tells

variable {count : Nat} {block : List Event}

/-- The block of a job tells of its start alone. -/
lemma filterMap_started (h : Tells name count block) : block.filterMap Event.started? = [name] := by
  obtain ⟨later, rfl, quiet⟩ := h.started
  exact congrArg (name :: ·) quiet

lemma mem_start (h : Tells name count block) : .jobStarted name ∈ block := by
  obtain ⟨later, rfl, -⟩ := h.started
  exact List.mem_cons_self

/-- A start in a longer log is the one that is told last, or was there before. -/
lemma start_of_append (h : Tells name count block) {before after : List Event} {other : String}
    (split : log ++ block = before ++ .jobStarted other :: after) :
    (before = log ∧ other = name) ∨ ∃ mid, log = before ++ .jobStarted other :: mid := by
  obtain ⟨later, rfl, quiet⟩ := h.started
  rcases List.append_eq_append_iff.1 split with ⟨mid, rfl, same⟩ | ⟨mid, rfl, same⟩
  · cases mid with
    | nil =>
        cases same
        exact .inl ⟨List.append_nil _, rfl⟩
    | cons e mid =>
        obtain ⟨-, rfl⟩ := List.cons.inj same
        simp [Event.started?] at quiet
  · cases mid with
    | nil =>
        cases same
        exact .inl ⟨(List.append_nil _).symm, rfl⟩
    | cons e mid =>
        obtain ⟨rfl, -⟩ := List.cons.inj same
        exact .inr ⟨mid, rfl⟩

end Tells

/-- The children of a job have different names. -/
lemma nodup_childNames (parent : String) (count : Nat) :
    ((List.range' 1 count).map (childName parent)).Nodup :=
  List.Nodup.map (fun _ _ same => (childName_injective same).2) List.nodup_range'

namespace Queued

/-- A job that is queued has not started yet. -/
lemma not_started (h : Queued roots (name :: queued) log) : .jobStarted name ∉ log := fun hm =>
  (List.nodup_append'.1 h.distinct).2.2 (Event.mem_started.2 hm) List.mem_cons_self

/-- **A job runs** at the front of the queue, and its children go to the end. -/
lemma ran {block : List Event} {count : Nat} (h : Queued roots (name :: queued) log)
    (plain : ∀ root ∈ roots, '#' ∉ root.toList) (tells : Tells name count block) :
    Queued roots (queued ++ (List.range' 1 count).map (childName name)) (log ++ block) where
  distinct := by
    have moved : (log ++ block).filterMap Event.started? ++
        (queued ++ (List.range' 1 count).map (childName name)) =
          (log.filterMap Event.started? ++ name :: queued) ++
            (List.range' 1 count).map (childName name) := by
      rw [List.filterMap_append, tells.filterMap_started]
      simp
    rw [moved]
    refine h.distinct.append (nodup_childNames name count) fun other hm hc => ?_
    obtain ⟨number, -, rfl⟩ := List.mem_map.1 hc
    exact h.fresh plain h.not_started number hm
  children := by
    rw [List.filterMap_append, tells.forked, List.map_append, List.map_map]
    refine h.children.append (nodup_childNames name count) fun other hm hc => ?_
    obtain ⟨number, -, rfl⟩ := List.mem_map.1 hc
    obtain ⟨⟨parent, child⟩, hm, rfl⟩ := List.mem_map.1 hm
    -- whoever told of a child of this name had started, and would be the job itself
    obtain ⟨started, _, same⟩ := h.forked parent _ (Event.mem_forked.1 hm)
    exact h.not_started ((childName_injective same).1 ▸ started)
  forked parent child hm := by
    rcases List.mem_append.1 hm with hm | hm
    · obtain ⟨started, number⟩ := h.forked parent child hm
      exact ⟨List.mem_append_left _ started, number⟩
    · have pair := Event.mem_forked.2 hm
      rw [tells.forked] at pair
      obtain ⟨number, -, same⟩ := List.mem_map.1 pair
      obtain ⟨rfl, rfl⟩ := Prod.mk.inj same
      exact ⟨List.mem_append_right _ tells.mem_start, number, rfl⟩
  waiting other ho := by
    rcases List.mem_append.1 ho with ho | ho
    · exact (h.waiting other (List.mem_cons_of_mem _ ho)).mono (List.Subset.refl _)
        (List.subset_append_left _ _)
    · obtain ⟨number, hn, rfl⟩ := List.mem_map.1 ho
      have told : .jobForked name (childName name number) ∈ block := by
        rw [← Event.mem_forked, tells.forked]
        exact List.mem_map_of_mem hn
      exact .child number (List.mem_append_right _ tells.mem_start) (List.mem_append_right _ told)
  known before other after split := by
    rcases tells.start_of_append split with ⟨rfl, rfl⟩ | ⟨mid, split⟩
    · exact h.waiting other List.mem_cons_self
    · exact h.known before other mid split

end Queued

/-! ## One job of a scheduler -/

/-- What happens inside a job does not matter to what it tells. -/
lemma Inside.tells {inner later : List Event} {count : Nat} (h : Inside inner)
    (hs : later.filterMap Event.started? = [])
    (hf : later.filterMap Event.forked? =
      (List.range' 1 count).map fun number => (name, childName name number)) :
    Tells name count (.jobStarted name :: (inner ++ later)) := by
  have untold : ∀ e ∈ inner, e.started? = none ∧ e.forked? = none := by
    intro e he
    have inside := h e he
    cases e <;> first | exact ⟨rfl, rfl⟩ | cases inside
  have starts : inner.filterMap Event.started? = [] :=
    List.filterMap_eq_nil_iff.2 fun e he => (untold e he).1
  have forks : inner.filterMap Event.forked? = [] :=
    List.filterMap_eq_nil_iff.2 fun e he => (untold e he).2
  refine ⟨⟨_, rfl, ?_⟩, ?_⟩
  · rw [List.filterMap_append, starts, hs, List.append_nil]
  · rw [List.filterMap_cons_none rfl, List.filterMap_append, forks, hf, List.nil_append]

namespace Forks

/-- The children of a job are named after it and numbered from one on. -/
lemma names_childrenOf (parent : String) (token : Token) (rest : List Stage) (n : Nat)
    (contexts : List Context) :
    (childrenOf parent token rest n contexts).map (·.name) =
      (List.range' (n + 1) contexts.length).map (childName parent) := by
  have forked : Function.Injective (Event.jobForked parent) :=
    fun _ _ same => (Event.jobForked.inj same).2
  refine forked.list_map ?_
  rw [List.map_map, List.map_map]
  exact told_childrenOf parent token rest n contexts

/-- Of children it is told that they are forked, in their order, and of no start. -/
lemma told_pairs (parent : String) (children : List ForkingJob) :
    (told parent children).filterMap Event.started? = [] ∧
      (told parent children).filterMap Event.forked? =
        (children.map (·.name)).map fun child => (parent, child) := by
  induction children with
  | nil => exact ⟨rfl, rfl⟩
  | cons child children ih => exact ⟨ih.1, congrArg ((parent, child.name) :: ·) ih.2⟩

end Forks

namespace Scheduler

variable {s : Scheduler} {st st' : SchedulerState}

/-- **A job tells of the children that it leaves** in the queue, behind the late job if that has
come in. -/
lemma JobLog.tells {job : ForkingJob} {r : Except Halt (Progress × SchedulerState)}
    (h : s.JobLog job st r log) :
    ∃ count, Tells job.name count log ∧ ∀ p st', r = .ok (p, st') →
      ∃ between, s.TakesLate st between ∧ st'.lateQueued = between.lateQueued ∧
        st'.queued.map (·.name) =
          between.queued.map (·.name) ++ (List.range' 1 count).map (childName job.name) := by
  cases h with
  | @completed between hl inner hi outcome contexts outputs children hc =>
      obtain ⟨starts, forks⟩ := Forks.told_pairs job.name children
      have names : children.map (·.name) =
          (List.range' 1 contexts.length).map (childName job.name) := by
        rw [hc]
        exact Forks.names_childrenOf job.name job.token job.stages.tail 0 contexts
      refine ⟨contexts.length, hi.tells ?_ ?_, ?_⟩
      · rw [List.filterMap_append, starts]
        rfl
      · rw [List.filterMap_append, forks, names, List.map_map]
        exact List.append_nil _
      · rintro p st' ⟨⟩
        refine ⟨between, hl, rfl, ?_⟩
        rw [← names]
        exact List.map_append
  | @failed between hl inner hi e =>
      refine ⟨0, hi.tells rfl rfl, ?_⟩
      rintro p st' ⟨⟩
      exact ⟨between, hl, rfl, List.map_append⟩
  | @overran between hl inner hi =>
      have tells : Tells job.name 0 (.jobStarted job.name :: (inner ++ [])) := hi.tells rfl rfl
      rw [List.append_nil] at tells
      refine ⟨0, tells, ?_⟩
      rintro p st' ⟨⟩
      exact ⟨between, hl, rfl, List.map_append⟩
  | @hung inner hi =>
      have tells : Tells job.name 0 (.jobStarted job.name :: (inner ++ [])) := hi.tells rfl rfl
      rw [List.append_nil] at tells
      exact ⟨0, tells, nofun⟩

/-! ## The queue of a scheduler -/

/-- The names of the roots of a run: of the jobs that it starts with, and of the late job where it
has been submitted. -/
def rootNames (s : Scheduler) (roots : List ForkingJob) (st : SchedulerState) : List String :=
  (roots ++ s.submitted st).map (·.name)

/-- **Roots with names of their own**: each has another one, and none is that of a child. -/
structure OwnNames (roots : List String) : Prop where
  distinct : roots.Nodup
  plain : ∀ root ∈ roots, '#' ∉ root.toList

lemma OwnNames.of_append {roots late : List String} (h : OwnNames (roots ++ late)) :
    OwnNames roots :=
  ⟨(List.nodup_append'.1 h.distinct).1, fun root hr => h.plain root (List.mem_append_left _ hr)⟩

/-- **The queue and the events of a run agree**, if its roots have names of their own. -/
def Orderly (s : Scheduler) (roots : List ForkingJob) (st : SchedulerState) (log : List Event) :
    Prop :=
  OwnNames (s.rootNames roots st) → Queued (s.rootNames roots st) (st.queued.map (·.name)) log

variable {roots : List ForkingJob}

/-- Of the state, only whether the late job is queued matters for the names of the roots. -/
lemma rootNames_congr (roots : List ForkingJob) (h : st.lateQueued = st'.lateQueued) :
    s.rootNames roots st = s.rootNames roots st' := by
  rw [rootNames, rootNames, submitted, submitted, h]

/-- A queue of roots is in order before anything is told. -/
lemma orderly_nil (s : Scheduler) (roots : List ForkingJob) :
    s.Orderly roots ⟨{}, roots, false⟩ [] := by
  have names : s.rootNames roots ⟨{}, roots, false⟩ = roots.map (·.name) := by
    rw [rootNames, submitted, if_neg Bool.false_ne_true, List.append_nil]
  intro own
  rw [names] at own ⊢
  exact .nil own.distinct

/-- The late job comes in as a root. -/
lemma TakesLate.orderly (h : s.TakesLate st st') (ho : s.Orderly roots st log) :
    s.Orderly roots st' log := by
  cases h with
  | none => exact ho
  | @submitted late hs hl =>
      intro own
      have more : s.rootNames roots ⟨st.report, st.queued ++ [late], true⟩ =
          s.rootNames roots st ++ [late.name] := by
        simp [rootNames, Scheduler.submitted, hs, hl]
      rw [more] at own ⊢
      rw [List.map_append]
      exact (ho own.of_append).submit own.distinct
        (own.plain _ (List.mem_append_right _ (List.mem_singleton_self _)))

/-- A job at the front of the queue does not matter to that. -/
lemma TakesLate.front {job : ForkingJob} {rest : List ForkingJob}
    (h : s.TakesLate { st with queued := rest } st') :
    s.TakesLate { st with queued := job :: rest } { st' with queued := job :: st'.queued } := by
  cases h with
  | none => exact .none
  | submitted hs hl => exact .submitted hs hl

section Turns

variable {told : List Event}

/-- **One turn keeps the order.** -/
lemma TurnLog.orderly {p : Progress} (h : s.TurnLog st (.ok (p, st')) told)
    (ho : s.Orderly roots st log) : s.Orderly roots st' (log ++ told) := by
  cases h with
  | idle hq =>
      rw [List.append_nil]
      exact ho
  | cancelled =>
      rw [List.append_nil]
      exact ho
  | @ran job rest r log hq hj =>
      obtain ⟨count, tells, leaves⟩ := hj.tells
      obtain ⟨between, late, same, names⟩ := leaves p st' rfl
      have whole : { st with queued := job :: rest } = st := by rw [← hq]
      have front : s.TakesLate st { between with queued := job :: between.queued } :=
        whole ▸ late.front
      intro own
      rw [rootNames_congr roots same] at own ⊢
      have ready := front.orderly ho own
      rw [names]
      exact ready.ran own.plain tells

/-- A turn that breaks off still tells of jobs with a line of their own. -/
lemma TurnLog.lineage_of_error {e : Halt} (h : s.TurnLog st (.error e) told)
    (ho : s.Orderly roots st log) (own : OwnNames (s.rootNames roots st)) :
    Lineage (s.rootNames roots st) (log ++ told) := by
  cases h with
  | ran hq hj =>
      obtain ⟨count, tells, -⟩ := hj.tells
      have ready := ho own
      rw [hq] at ready
      exact (ready.ran own.plain tells).lineage

end Turns

/-! ## All turns -/

/-- **A queue worked off to where the run ends**: turn after turn, until one halts or never ends. -/
inductive EndsAt (s : Scheduler) : SchedulerState → World → SchedulerState → World → Prop where
  | halts {st st' : SchedulerState} {w u : World} (h : s.turn st w = (.ok (.halt, st'), u)) :
      EndsAt s st w st' u
  | hangs {st : SchedulerState} {w u : World} {e : Halt} (h : s.turn st w = (.error e, u)) :
      EndsAt s st w st u
  | turns {st st' st'' : SchedulerState} {w u v : World}
      (h : s.turn st w = (.ok (.goOn, st'), u)) (he : EndsAt s st' u st'' v) : EndsAt s st w st'' v

end Scheduler

/-- **All turns of a queue**, by induction on the turns; order is what carries it. -/
theorem WorksOff.lineage {s : Scheduler} {roots : List ForkingJob} {st : SchedulerState}
    {w : World} {out : Except Halt SchedulerReport × World} {log : List Event}
    (h : WorksOff s st w out) (ho : s.Orderly roots st log) :
    ∃ told st', out.2.events = w.events ++ told ∧ s.EndsAt st w st' out.2 ∧
      (Scheduler.OwnNames (s.rootNames roots st') →
        Lineage (s.rootNames roots st') (log ++ told)) := by
  induction h generalizing log with
  | @halts st st' w u h =>
      obtain ⟨t, ht, turn⟩ := s.turn_leaves st w
      rw [h] at ht turn
      exact ⟨t.events, st', congrArg Trail.events ht, .halts h,
        fun own => (turn.orderly ho own).lineage⟩
  | @breaks st w u e h =>
      obtain ⟨t, ht, turn⟩ := s.turn_leaves st w
      rw [h] at ht turn
      exact ⟨t.events, st, congrArg Trail.events ht, .hangs h, turn.lineage_of_error ho⟩
  | @turns st st' w u out h _ ih =>
      obtain ⟨t, ht, turn⟩ := s.turn_leaves st w
      rw [h] at ht turn
      have events : u.events = w.events ++ t.events := congrArg Trail.events ht
      obtain ⟨told, last, more, ends, lineage⟩ := ih (turn.orderly ho)
      refine ⟨t.events ++ told, last, ?_, .turns h ends, ?_⟩
      · rw [more, events, List.append_assoc]
      · rw [← List.append_assoc]
        exact lineage

namespace Scheduler

/-- **The jobs of a run have names of their own**, and the names tell whose children they are.  Of
any jobs with any stages, in any world: with any answers, stores and functions, with cancellations,
stop signals and a further job at any moment, and with jobs that never end. -/
theorem run_lineage (s : Scheduler) (roots : List ForkingJob) (w : World) :
    ∃ log st, (s.run roots w).2.events = w.events ++ log ∧
      s.EndsAt ⟨{}, roots, false⟩ w st (s.run roots w).2 ∧
      (((roots ++ s.submitted st).map (·.name)).Nodup →
        (∀ job ∈ roots ++ s.submitted st, '#' ∉ job.name.toList) →
          Lineage ((roots ++ s.submitted st).map (·.name)) log) := by
  have turns : WorksOff s ⟨{}, roots, false⟩ w (s.run roots w) := (run_worksOff s roots w _).2 rfl
  obtain ⟨log, st, told, ends, lineage⟩ := turns.lineage (s.orderly_nil roots)
  exact ⟨log, st, told, ends, fun distinct plain =>
    lineage ⟨distinct, List.forall_mem_map.2 plain⟩⟩

theorem run_lineage_pieces :
    ∃ log, (run ⟨[0], none, none⟩ [fetchPieces] unansweredPiece).2.events = [] ++ log ∧
      log.filterMap Event.started? = ["both", "both#1", "both#2"] ∧
      log.filterMap Event.forked? = [("both", "both#1"), ("both", "both#2")] ∧
      Lineage ["both"] log := by
  obtain ⟨log, st, told, -, lineage⟩ := run_lineage ⟨[0], none, none⟩ [fetchPieces] unansweredPiece
  have roots : [fetchPieces] ++ submitted ⟨[0], none, none⟩ st = [fetchPieces] := by
    rw [submitted]
    split <;> rfl
  rw [roots] at lineage
  have same : log = (run ⟨[0], none, none⟩ [fetchPieces] unansweredPiece).2.events := told.symm
  refine ⟨log, told, ?_, ?_, lineage (by decide) (by simp [fetchPieces])⟩
  · rw [same]
    decide +kernel
  · rw [same]
    decide +kernel

end Scheduler

end Connector
