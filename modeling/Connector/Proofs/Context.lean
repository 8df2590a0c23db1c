import Connector.Task
import Mathlib.Data.List.Sort

/-!
# Contexts that agree

A context is a record whose names are in order, so it is determined by the values under its names.
Two contexts that agree but for one name become the same when something is bound to that name.

* `Record.mem_names_iff` — the names of a record are those that something is under.
* `Record.Ordered.ext` — ordered records with the same values are the same.
* `Record.get?_overlay`, `Record.get?_ofList_append` — of two entries with one name the later wins.
* `Record.AgreeOff` — two records agree but for one name.
* `Processor.run_overlay` — a processor binds the same names, whatever else is in the context.
* **`Processor.run_agreeOff`** — a processor with the same outcome leaves contexts that agree.
-/

namespace Connector

namespace Record

variable {α : Type} {r s : Record α} {key other : String} {value : α}

lemma Ordered.not_mem_of_lt {rest : Record α} (h : Ordered ((key, value) :: rest)) (v : α) :
    (key, v) ∉ rest := fun hm =>
  String.lt_irrefl key ((List.pairwise_cons.1 h).1 _ hm)

lemma Ordered.get?_eq_some_iff (h : r.Ordered) : get? key r = some value ↔ (key, value) ∈ r := by
  induction r with
  | nil => simp
  | cons entry rest ih =>
      obtain ⟨k, v⟩ := entry
      have later : Ordered rest := (List.pairwise_cons.1 h).2
      by_cases hk : k = key
      · subst hk
        have absent := h.not_mem_of_lt value
        simp [get?, absent, eq_comm]
      · simp [get?, hk, Ne.symm hk, ih later]

/-- **The names of a record** are those that something is under. -/
lemma mem_names_iff {name : String} : name ∈ names r ↔ (get? name r).isSome := by
  induction r with
  | nil => simp [names]
  | cons entry rest ih =>
      obtain ⟨k, v⟩ := entry
      by_cases h : k = name
      · simp [names, get?, h]
      · have other : name ≠ k := Ne.symm h
        simpa [names, get?, h, other] using ih

lemma mem_names_insert {name : String} :
    name ∈ names (insert key value r) ↔ name = key ∨ name ∈ names r := by
  rw [mem_names_iff, mem_names_iff, get?_insert]
  by_cases h : key = name
  · simp [h]
  · simp [h, Ne.symm h]

lemma ordered_iff_names : r.Ordered ↔ (names r).Pairwise (· < ·) := List.pairwise_map.symm

lemma Ordered.nodup (h : r.Ordered) : (names r).Nodup :=
  (ordered_iff_names.1 h).imp fun {a b} (lt : a < b) (same : a = b) => String.lt_irrefl b (same ▸ lt)

/-- **Ordered records with the same values are the same.** -/
theorem Ordered.ext (hr : r.Ordered) (hs : s.Ordered) (h : ∀ key, get? key r = get? key s) :
    r = s := by
  have irrefl : Std.Irrefl fun a b : String × α => a.1 < b.1 := ⟨fun a => String.lt_irrefl a.1⟩
  have antisymm : Std.Antisymm fun a b : String × α => a.1 < b.1 :=
    ⟨fun a b hab hba => absurd hba (String.lt_asymm hab)⟩
  refine List.Pairwise.eq_of_mem_iff hr hs ?_
  rintro ⟨key, value⟩
  rw [← hr.get?_eq_some_iff, ← hs.get?_eq_some_iff, h]

/-- Where the names are in order already, there is nothing to sort. -/
lemma Ordered.sort_eq (h : r.Ordered) : sort r = r :=
  (ordered_sort r).ext h (get?_sort r)

/-- What is laid over a record comes first. -/
lemma get?_overlay (lower upper : Record α) :
    get? key (overlay lower upper) = (get? key (ofList upper)).or (get? key lower) := by
  induction upper generalizing lower with
  | nil => rfl
  | cons entry rest ih =>
      obtain ⟨k, v⟩ := entry
      have first : ofList ((k, v) :: rest) = overlay (insert k v []) rest := rfl
      rw [first, ih (insert k v []), overlay, ih (insert k v lower), Option.or_assoc, get?_insert,
        get?_insert]
      split <;> rfl

lemma overlay_append (lower upper more : Record α) :
    overlay lower (upper ++ more) = overlay (overlay lower upper) more := by
  induction upper generalizing lower with
  | nil => rfl
  | cons entry rest ih => exact ih (insert entry.1 entry.2 lower)

/-- Of two entries with one name the later wins. -/
@[simp] lemma get?_ofList_append (xs ys : List (String × α)) :
    get? key (ofList (xs ++ ys)) = (get? key (ofList ys)).or (get? key (ofList xs)) := by
  rw [ofList, overlay_append, get?_overlay]
  rfl

@[simp] lemma get?_ofList_cons (k : String) (v : α) (rest : List (String × α)) :
    get? key (ofList ((k, v) :: rest))
      = (get? key (ofList rest)).or (if k = key then some v else none) :=
  get?_ofList_append [(k, v)] rest

@[simp] lemma get?_ofList_nil : get? key (ofList ([] : List (String × α))) = none := rfl

/-- A record in order is the record of its own entries. -/
lemma ofList_of_ordered {r : Record α} (h : r.Ordered) : ofList r = r := by
  refine Ordered.ext (ordered_ofList r) h fun key => ?_
  induction r with
  | nil => rfl
  | cons entry rest ih =>
      obtain ⟨k, v⟩ := entry
      have later : Ordered rest := (List.pairwise_cons.1 h).2
      rw [get?_ofList_cons, ih later, get?]
      split
      · rename_i same
        subst same
        have absent : get? k rest = none := by
          refine Option.eq_none_iff_forall_ne_some.2 fun w hw => ?_
          exact h.not_mem_of_lt w (later.get?_eq_some_iff.1 hw)
        rw [absent, Option.none_or]
      · rw [Option.or_none]

/-- **Two records agree but for one name.** -/
structure AgreeOff (key : String) (r s : Record α) : Prop where
  left : r.Ordered
  right : s.Ordered
  get? {other : String} (h : other ≠ key) : get? other r = get? other s

/-- Where the name is bound, the records are the same. -/
lemma AgreeOff.insert_eq (h : AgreeOff key r s) (value : α) :
    insert key value r = insert key value s := by
  refine Ordered.ext (h.left.insert key value) (h.right.insert key value) fun other => ?_
  rw [get?_insert, get?_insert]
  split
  · rfl
  · rename_i hne
    exact h.get? (Ne.symm hne)

/-- The same bindings, laid over both records. -/
lemma AgreeOff.overlay (h : AgreeOff key r s) {upper upper' : Record α}
    (hu : ofList upper = ofList upper') :
    AgreeOff key (Record.overlay r upper) (Record.overlay s upper') where
  left := h.left.overlay upper
  right := h.right.overlay upper'
  get? hk := by rw [get?_overlay, get?_overlay, hu, h.get? hk]

end Record

namespace Processor

variable {c d : Context}

/-- Tasks bind the same names in the context and in their outputs. -/
lemma runTasks_overlay (functions : Registry) (tasks : List Task) (c outputs : Context) :
    ∃ bound : Context, (runTasks functions tasks c outputs).context = Record.overlay c bound ∧
      ((∃ e, (runTasks functions tasks c outputs).outcome = .error e) ∨
        (runTasks functions tasks c outputs).outcome =
          .ok (.ran (Record.overlay outputs bound))) := by
  induction tasks generalizing c outputs with
  | nil => exact ⟨[], rfl, .inr rfl⟩
  | cons task rest ih =>
      rcases hp : task.perform functions c with e | reply
      · exact ⟨[], by simp [runTasks, hp, Record.overlay], .inl ⟨e, by simp [runTasks, hp]⟩⟩
      · obtain ⟨bound, hc, ho⟩ := ih (task.bind reply.value c) (task.bind reply.value outputs)
        -- what the task itself binds, if anything, comes before what the rest binds
        have binds (e : Context) : Record.overlay (task.bind reply.value e) bound =
            Record.overlay e
              ((task.output.map fun name => (name, reply.value)).toList ++ bound) := by
          rw [Task.bind]
          cases task.output <;> rfl
        rw [binds] at hc ho
        exact ⟨_, by simpa [runTasks, hp] using hc, by simpa [runTasks, hp] using ho⟩

/-- What is bound where a processor ends with an outcome. -/
def Binds (bound : Context) : Except RunError Outcome → Prop
  | .ok .skipped => bound = []
  | .ok (.ran outputs) => outputs = Record.ofList bound
  | .error _ => True

/-- **What a processor binds** lies over the context, and is all of its outputs. -/
lemma run_overlay (p : Processor) (functions : Registry) (c : Context) :
    ∃ bound : Context, (p.run functions c).context = Record.overlay c bound ∧
      Binds bound (p.run functions c).outcome := by
  rw [run]
  rcases p.gate.passes functions c with ⟨e | _ | _, printed⟩
  · exact ⟨[], rfl, trivial⟩
  · exact ⟨[], rfl, rfl⟩
  · obtain ⟨bound, hc, ⟨e, he⟩ | ho⟩ := runTasks_overlay functions p.pipeline c []
    · exact ⟨bound, hc, by simp [Binds, he]⟩
    · exact ⟨bound, hc, by simp [Binds, ho, Record.ofList]⟩

lemma ordered_run (p : Processor) (functions : Registry) (hc : c.Ordered) :
    (p.run functions c).context.Ordered := by
  obtain ⟨bound, hb, -⟩ := p.run_overlay functions c
  rw [hb]
  exact hc.overlay bound

/-- **Contexts that agree but for one name do so afterwards**, when the outcome is the same. -/
theorem run_agreeOff (p : Processor) {functions : Registry} {key : String} (h : c.AgreeOff key d)
    (ho : (p.run functions c).outcome = (p.run functions d).outcome) {o : Outcome}
    (hr : (p.run functions c).outcome = .ok o) :
    Record.AgreeOff key (p.run functions c).context (p.run functions d).context := by
  obtain ⟨bound, hb, hc⟩ := p.run_overlay functions c
  obtain ⟨bound', hb', hd⟩ := p.run_overlay functions d
  rw [← ho, hr] at hd
  rw [hr] at hc
  rw [hb, hb']
  refine h.overlay ?_
  cases o with
  | skipped => exact congrArg Record.ofList (hc.trans hd.symm)
  | ran outputs => exact hc.symm.trans hd

end Processor

end Connector
