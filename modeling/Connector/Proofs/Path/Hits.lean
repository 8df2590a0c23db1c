import Connector.Path
import Connector.Builtins
import Connector.Proofs.Json.InOrder
import Mathlib.Data.List.Sort
import Mathlib.Tactic.Common

/-!
# The hits of a path

A path is followed from all values at once, segment by segment.  What it reaches is what each value
leads to by itself, one value after the other: nothing is merged, nothing is left out, and nothing
changes its place.

* `Path.hits` — the values that a path leads to from one value.
* `Path.Spreads` — a wildcard is applied to some value on the way.
* `Path.Reached.follow_values`, `follow_spread` — what is reached from several values.
* `Path.length_hits_le_one` — without a wildcard there is at most one hit.
* **`Path.select_hits`** — the selected value, by the hits and the wildcards on the way.
-/

namespace Connector

/-! ## Children in the order of their names -/

/-- **All children of a value**: the elements of an array, or what an object has under its names,
from the least name to the greatest. -/
def Json.offspring : Json → List Json
  | .arr items => items
  | .obj fields =>
    ((Record.names fields).mergeSort (· ≤ ·)).filterMap fun name => Record.get? name fields
  | _ => []

namespace Record

variable {α : Type} {r : Record α}

/-- The names of an ordered record lead to its values. -/
lemma Ordered.filterMap_get? (h : r.Ordered) :
    (names r).filterMap (fun name => get? name r) = values r := by
  have found : ∀ entry ∈ r, get? entry.1 r = some entry.2 :=
    fun entry he => h.get?_eq_some_iff.2 he
  rw [names, values, List.filterMap_map, ← List.filterMap_eq_map]
  exact List.filterMap_congr found

lemma Ordered.mergeSort_names (h : r.Ordered) : (names r).mergeSort (· ≤ ·) = names r := by
  refine List.mergeSort_of_pairwise (List.pairwise_map.2 (h.imp fun lt => ?_))
  exact decide_eq_true (Std.le_of_lt lt)

end Record

namespace Json.InOrder

variable {v w : Json}

/-- The children of a value in order are all that is directly in it. -/
lemma children_eq (h : v.InOrder) : v.children = v.offspring := by
  cases h with
  | obj ordered _ => rw [children, offspring, ordered.mergeSort_names, ordered.filterMap_get?]
  | _ => rfl

/-- What is directly in a value in order is in order. -/
lemma of_mem_offspring (h : v.InOrder) (hw : w ∈ v.offspring) : w.InOrder := by
  cases h with
  | arr inside => exact inside w hw
  | obj ordered inside =>
      obtain ⟨name, -, found⟩ := List.mem_filterMap.1 hw
      exact inside _ (ordered.get?_eq_some_iff.1 found)
  | _ => cases hw

lemma of_mem_member? {name : String} (h : v.InOrder) (hw : v.member? name = some w) :
    w.InOrder := by
  cases h with
  | obj ordered inside => exact inside _ (ordered.get?_eq_some_iff.1 hw)
  | _ => cases hw

lemma of_mem_item? {index : Nat} (h : v.InOrder) (hw : v.item? index = some w) : w.InOrder := by
  cases h with
  | arr inside => exact inside w (List.mem_of_getElem? hw)
  | _ => cases hw

end Json.InOrder

namespace Path

/-! ## Hits -/

/-- The values that a name leads to: for the empty name the value itself, for `*` all children,
else the member of that name. -/
def takeName (name : String) (v : Json) : List Json :=
  if name = "" then [v] else if name = "*" then v.offspring else (v.member? name).toList

/-- The values that an index leads to. -/
def takeIndex : Option Index → Json → List Json
  | none, v => [v]
  | some (.at i), v => (v.item? i).toList
  | some .all, v => v.offspring

/-- The values that a segment leads to: its name first and then its index. -/
def Segment.leads (s : Segment) (v : Json) : List Json :=
  (takeName s.name v).flatMap (takeIndex s.index)

/-- **The hits of a path**: whatever the first segment leads to is followed through the rest. -/
def hits : Path → Json → List Json
  | [], v => [v]
  | s :: rest, v => (s.leads v).flatMap (hits rest)

/-- **A wildcard is applied to some value** on the way along a path. -/
inductive Spreads : Path → Json → Prop where
  /-- The name of the segment is one. -/
  | name {s : Segment} {rest : Path} {v : Json} : s.name = "*" → Spreads (s :: rest) v
  /-- Its index is one, and the name leads to a value. -/
  | index {s : Segment} {rest : Path} {v field : Json} :
      s.index = some .all → field ∈ takeName s.name v → Spreads (s :: rest) v
  /-- There is one further on. -/
  | later {s : Segment} {rest : Path} {v w : Json} :
      w ∈ s.leads v → Spreads rest w → Spreads (s :: rest) v

variable {s : Segment} {path : Path} {v w : Json}

/-- A path without segments does not spread. -/
lemma spreads_nil : ¬ Spreads [] v := nofun

/-- A path spreads in its first segment or behind it. -/
lemma spreads_cons : Spreads (s :: path) v ↔
    (s.name = "*" ∨ s.index = some .all ∧ takeName s.name v ≠ []) ∨
      ∃ w ∈ s.leads v, Spreads path w := by
  constructor
  · rintro (star | ⟨all, field⟩ | ⟨lead, later⟩)
    · exact .inl (.inl star)
    · exact .inl (.inr ⟨all, List.ne_nil_of_mem field⟩)
    · exact .inr ⟨_, lead, later⟩
  · rintro ((star | ⟨all, some⟩) | ⟨w, lead, later⟩)
    · exact .name star
    · obtain ⟨field, field_mem⟩ := List.exists_mem_of_ne_nil _ some
      exact .index all field_mem
    · exact .later lead later

/-! ## One segment -/

lemma inOrder_of_mem_takeName {name : String} (h : v.InOrder) (hw : w ∈ takeName name v) :
    w.InOrder := by
  rw [takeName] at hw
  split_ifs at hw
  · exact List.mem_singleton.1 hw ▸ h
  · exact h.of_mem_offspring hw
  · exact h.of_mem_member? (Option.mem_toList.1 hw)

lemma inOrder_of_mem_takeIndex {index : Option Index} (h : v.InOrder)
    (hw : w ∈ takeIndex index v) : w.InOrder := by
  rcases index with _ | i | _
  · exact List.mem_singleton.1 hw ▸ h
  · exact h.of_mem_item? (Option.mem_toList.1 hw)
  · exact h.of_mem_offspring hw

/-- What a segment leads to is in order. -/
lemma Segment.inOrder_of_mem_leads (h : v.InOrder) (hw : w ∈ s.leads v) : w.InOrder := by
  obtain ⟨field, hfield, hw⟩ := List.mem_flatMap.1 hw
  exact inOrder_of_mem_takeIndex (inOrder_of_mem_takeName h hfield) hw

/-- The name of a segment leads to what is under it. -/
lemma Segment.named_eq (h : v.InOrder) : s.named v = takeName s.name v := by
  rw [named, takeName, h.children_eq]

/-- The index of a segment leads to what is at it. -/
lemma Segment.indexed_eq (h : v.InOrder) : s.indexed v = takeIndex s.index v := by
  rw [indexed, takeIndex.eq_def]
  rcases s.index with _ | i | _
  · rfl
  · rfl
  · exact h.children_eq

/-- Values that are in order. -/
def AllInOrder (vs : List Json) : Prop := ∀ v ∈ vs, v.InOrder

variable {vs : List Json}

lemma AllInOrder.leads (h : AllInOrder vs) (s : Segment) : AllInOrder (vs.flatMap s.leads) := by
  intro w hw
  obtain ⟨v, hv, hw⟩ := List.mem_flatMap.1 hw
  exact Segment.inOrder_of_mem_leads (h v hv) hw

lemma AllInOrder.fields (h : AllInOrder vs) (s : Segment) :
    vs.flatMap s.named = vs.flatMap (takeName s.name) :=
  List.flatMap_congr fun v hv => Segment.named_eq (h v hv)

namespace Reached

/-- One step leads from every value to what the segment leads to. -/
lemma step_values (h : AllInOrder vs) (spread : Bool) :
    (step ⟨vs, spread⟩ s).values = vs.flatMap s.leads := by
  have fields : ∀ field ∈ vs.flatMap (takeName s.name), field.InOrder := by
    intro field hfield
    obtain ⟨v, hv, hfield⟩ := List.mem_flatMap.1 hfield
    exact inOrder_of_mem_takeName (h v hv) hfield
  calc (step ⟨vs, spread⟩ s).values
      = (vs.flatMap (takeName s.name)).flatMap s.indexed := by rw [step, h.fields]
    _ = (vs.flatMap (takeName s.name)).flatMap (takeIndex s.index) :=
        List.flatMap_congr fun field hfield => Segment.indexed_eq (fields field hfield)
    _ = vs.flatMap s.leads := List.flatMap_assoc

/-- One step passes a wildcard where it applies it to a value. -/
lemma step_spread (h : AllInOrder vs) (spread : Bool) :
    (step ⟨vs, spread⟩ s).spread ↔ spread ∨
      ∃ v ∈ vs, s.name = "*" ∨ s.index = some .all ∧ takeName s.name v ≠ [] := by
  have fields : vs.flatMap (takeName s.name) ≠ [] ↔ ∃ v ∈ vs, takeName s.name v ≠ [] := by
    simp [List.flatMap_eq_nil_iff]
  have some : vs ≠ [] ↔ ∃ v, v ∈ vs :=
    ⟨List.exists_mem_of_ne_nil vs, fun ⟨_, hv⟩ => List.ne_nil_of_mem hv⟩
  simp only [step, h.fields, Bool.or_eq_true, Bool.and_eq_true, decide_eq_true_eq,
    Bool.not_eq_true', List.isEmpty_eq_false_iff, fields, some]
  constructor
  · rintro ((spread | ⟨star, v, hv⟩) | ⟨all, v, hv, field⟩)
    · exact .inl spread
    · exact .inr ⟨v, hv, .inl star⟩
    · exact .inr ⟨v, hv, .inr ⟨all, field⟩⟩
  · rintro (spread | ⟨v, hv, star | ⟨all, field⟩⟩)
    · exact .inl (.inl spread)
    · exact .inl (.inr ⟨star, v, hv⟩)
    · exact .inr ⟨all, v, hv, field⟩

/-! ## All segments -/

/-- **All that is reached from several values** is what is hit from each of them, in order. -/
lemma follow_values (path : Path) (h : AllInOrder vs) (spread : Bool) :
    (path.foldl step ⟨vs, spread⟩).values = vs.flatMap path.hits := by
  induction path generalizing vs spread with
  | nil => exact (List.flatMap_singleton' vs).symm
  | cons s rest ih =>
      have stepped : step ⟨vs, spread⟩ s = ⟨vs.flatMap s.leads, (step ⟨vs, spread⟩ s).spread⟩ :=
        congrArg (Reached.mk · _) (step_values h spread)
      rw [List.foldl_cons, stepped, ih (h.leads s), List.flatMap_assoc]
      rfl

/-- **The way from several values passes a wildcard** where that from one of them does. -/
lemma follow_spread (path : Path) (h : AllInOrder vs) (spread : Bool) :
    (path.foldl step ⟨vs, spread⟩).spread ↔ spread ∨ ∃ v ∈ vs, path.Spreads v := by
  induction path generalizing vs spread with
  | nil => simp [spreads_nil]
  | cons s rest ih =>
      have stepped : step ⟨vs, spread⟩ s = ⟨vs.flatMap s.leads, (step ⟨vs, spread⟩ s).spread⟩ :=
        congrArg (Reached.mk · _) (step_values h spread)
      rw [List.foldl_cons, stepped, ih (h.leads s), step_spread h]
      simp only [spreads_cons, List.mem_flatMap]
      constructor
      · rintro ((spread | ⟨v, hv, now⟩) | ⟨w, ⟨v, hv, lead⟩, later⟩)
        · exact .inl spread
        · exact .inr ⟨v, hv, .inl now⟩
        · exact .inr ⟨v, hv, .inr ⟨w, lead, later⟩⟩
      · rintro (spread | ⟨v, hv, now | ⟨w, lead, later⟩⟩)
        · exact .inl (.inl spread)
        · exact .inl (.inr ⟨v, hv, now⟩)
        · exact .inr ⟨w, ⟨v, hv, lead⟩, later⟩

end Reached

/-! ## What is selected -/

/-- A segment that is no wildcard leads to at most one value. -/
lemma Segment.length_leads_le_one (star : s.name ≠ "*")
    (all : s.index = some .all → takeName s.name v = []) : (s.leads v).length ≤ 1 := by
  have fields : (takeName s.name v).length ≤ 1 := by
    rw [takeName, if_neg star]
    split_ifs
    · exact Nat.le_refl 1
    · exact Option.length_toList_le
  rw [leads]
  match hf : takeName s.name v, fields with
  | [], _ => exact Nat.zero_le 1
  | [field], _ =>
      rw [List.flatMap_singleton]
      rcases hi : s.index with _ | i | _
      · exact Nat.le_refl 1
      · exact Option.length_toList_le
      · rw [all hi] at hf
        cases hf

/-- **Without a wildcard on the way there is at most one hit.** -/
lemma length_hits_le_one (h : ¬ path.Spreads v) : (path.hits v).length ≤ 1 := by
  induction path generalizing v with
  | nil => exact Nat.le_refl 1
  | cons s rest ih =>
      have one : (s.leads v).length ≤ 1 := by
        refine Segment.length_leads_le_one (fun star => h (.name star)) fun all => ?_
        exact List.eq_nil_iff_forall_not_mem.2 fun field hfield => h (.index all hfield)
      rw [hits]
      match hl : s.leads v, one with
      | [], _ => exact Nat.zero_le 1
      | [w], _ =>
          rw [List.flatMap_singleton]
          exact ih fun later => h (.later (hl ▸ List.mem_singleton_self w) later)

/-- A path leads from a value in order to values in order. -/
lemma inOrder_of_mem_hits (h : v.InOrder) (hw : w ∈ path.hits v) : w.InOrder := by
  induction path generalizing v with
  | nil =>
      rw [hits, List.mem_singleton] at hw
      exact hw ▸ h
  | cons s rest ih =>
      rw [hits] at hw
      obtain ⟨u, hu, hw⟩ := List.mem_flatMap.1 hw
      exact ih (Segment.inOrder_of_mem_leads h hu) hw

/-- No value is the array of itself. -/
lemma ne_arr_singleton (v : Json) : v ≠ .arr [v] := by
  intro h
  have size := congrArg sizeOf h
  simp only [Json.arr.sizeOf_spec, List.cons.sizeOf_spec] at size
  omega

/-- What a value stands for is in order. -/
lemma opened_inOrder {root : Json} (h : root.InOrder) : (Builtins.opened root).InOrder := by
  cases root with
  | str s =>
      rw [Builtins.opened]
      cases hp : Json.parse? s with
      | none => exact h
      | some v => exact Json.inOrder_of_parse? hp
  | _ => exact h

/-- **What a path selects.**  It is the array of all hits, in their order, exactly when a wildcard
is applied to some value on the way; otherwise there is at most one hit, and it is selected, or
null when there is none.  What a text stands for and what is selected are in order again, so that
this holds wherever paths are applied. -/
theorem select_hits {root : Json} (h : root.InOrder) (path : Path) :
    (path.select root = .arr (path.hits root) ↔ path.Spreads root) ∧
    (¬ path.Spreads root → (path.hits root).length ≤ 1 ∧
      path.select root = (path.hits root).head?.getD .null) ∧
    (Builtins.opened root).InOrder ∧ (path.select root).InOrder := by
  have rooted : AllInOrder [root] := List.forall_mem_singleton.2 h
  have values : (path.follow root).values = path.hits root := by
    rw [follow, Reached.follow_values path rooted, List.flatMap_singleton]
  have spread : (path.follow root).spread ↔ path.Spreads root := by
    simp [follow, Reached.follow_spread path rooted]
  have wild (hs : path.Spreads root) : path.select root = .arr (path.hits root) := by
    rw [select, Reached.value, if_pos (spread.2 hs), values]
  have plain (hs : ¬ path.Spreads root) : (path.hits root).length ≤ 1 ∧
      path.select root = (path.hits root).head?.getD .null := by
    have one := length_hits_le_one hs
    refine ⟨one, ?_⟩
    rw [select, Reached.value, if_neg (mt spread.1 hs), values]
    match path.hits root, one with
    | [], _ => rfl
    | [v], _ => rfl
  have selected : (path.select root).InOrder := by
    by_cases hs : path.Spreads root
    · rw [wild hs]
      exact .arr fun v hv => inOrder_of_mem_hits h hv
    · rw [(plain hs).2]
      cases hh : (path.hits root).head? with
      | none => exact .null
      | some v => exact inOrder_of_mem_hits h (List.mem_of_head? hh)
  refine ⟨⟨fun array => ?_, wild⟩, plain, opened_inOrder h, selected⟩
  by_contra hs
  obtain ⟨one, selected⟩ := plain hs
  rw [array] at selected
  match hv : path.hits root, one with
  | [], _ =>
      rw [hv] at selected
      cases selected
  | [v], _ =>
      rw [hv] at selected
      exact ne_arr_singleton v selected.symm

/-- An object with one item. -/
def oneItem : Json := .obj [("items", .arr [.obj [("id", .bool true)]])]

lemma oneItem_inOrder : oneItem.InOrder := by
  have item : Json.InOrder (.obj [("id", .bool true)]) :=
    .obj (List.pairwise_singleton ..) (List.forall_mem_singleton.2 (.bool true))
  have items : Json.InOrder (.arr [.obj [("id", .bool true)]]) :=
    .arr (List.forall_mem_singleton.2 item)
  exact .obj (List.pairwise_singleton ..) (List.forall_mem_singleton.2 items)

/-- The only item behind a wildcard stays inside an array. -/
theorem select_hits_oneItem : oneItem.InOrder ∧ Spreads (parse "$.items[*].id") oneItem ∧
    select (parse "$.items[*].id") oneItem = .arr [.bool true] := by
  have read : parse "$.items[*].id" = [⟨"items", some .all⟩, ⟨"id", none⟩] := by decide +kernel
  have spreads : Spreads [⟨"items", some .all⟩, ⟨"id", none⟩] oneItem :=
    .index rfl (List.mem_singleton_self _)
  rw [read]
  exact ⟨oneItem_inOrder, spreads, (select_hits oneItem_inOrder _).1.2 spreads⟩

end Path

end Connector
