import Connector.Json.Source
import Connector.Proofs.Context
import Connector.Template

/-!
# Values in order

The members of an object stand in the order of their names, at every depth.  The values of the
program are all like that: a text is read to such a value and a template renders to one.

* `Json.InOrder` — all objects of a value have their members in order.
* `Json.InOrder.ofList` — an object made of values in order, whatever the order of its members was.
* **`Json.inOrder_of_parse?`**, **`Template.inOrder_of_render`** — where values come from.
-/

namespace Connector

/-- **A value in order**: every object in it is a record in order. -/
inductive Json.InOrder : Json → Prop where
  | null : InOrder .null
  | bool (b : Bool) : InOrder (.bool b)
  | num (n : Number) : InOrder (.num n)
  | str (s : String) : InOrder (.str s)
  | arr {items : List Json} : (∀ v ∈ items, InOrder v) → InOrder (.arr items)
  | obj {fields : List (String × Json)} :
      Record.Ordered fields → (∀ entry ∈ fields, InOrder entry.2) → InOrder (.obj fields)

namespace Record

variable {α : Type} {r upper : Record α} {key : String} {value : α} {entry : String × α}

/-- What is inserted comes from outside or was there before. -/
lemma mem_of_mem_insert (h : entry ∈ insert key value r) : entry = (key, value) ∨ entry ∈ r := by
  induction r with
  | nil => exact .inl (by simpa [insert] using h)
  | cons head rest ih =>
      obtain ⟨k, v⟩ := head
      rw [insert] at h
      split_ifs at h
      · rcases List.mem_cons.1 h with rfl | h
        · exact .inl rfl
        · exact .inr h
      · rcases List.mem_cons.1 h with rfl | h
        · exact .inl rfl
        · exact .inr (List.mem_cons_of_mem _ h)
      · rcases List.mem_cons.1 h with rfl | h
        · exact .inr (List.mem_cons_self ..)
        · exact (ih h).imp_right (List.mem_cons_of_mem _)

lemma mem_of_mem_overlay (h : entry ∈ overlay r upper) : entry ∈ r ∨ entry ∈ upper := by
  induction upper generalizing r with
  | nil => exact .inl h
  | cons head rest ih =>
      rcases ih h with h | h
      · rcases mem_of_mem_insert h with rfl | h
        · exact .inr (List.mem_cons_self ..)
        · exact .inl h
      · exact .inr (List.mem_cons_of_mem _ h)

lemma mem_of_mem_ofList {entries : List (String × α)} (h : entry ∈ ofList entries) :
    entry ∈ entries :=
  (mem_of_mem_overlay h).resolve_left List.not_mem_nil

end Record

namespace Json.InOrder

/-- An object that is made of values in order. -/
lemma ofList {members : List (String × Json)} (h : ∀ entry ∈ members, InOrder entry.2) :
    InOrder (.obj (Record.ofList members)) :=
  .obj (Record.ordered_ofList members) fun entry he => h entry (Record.mem_of_mem_ofList he)

end Json.InOrder

/-! ## Where values come from -/

mutual

/-- **What is read from a tree is in order.** -/
lemma Source.inOrder_of_toJson? : ∀ {depth : Nat} {tree : Source} {v : Json},
    tree.toJson? depth = some v → v.InOrder
  | _, .broken, _, h => by cases h
  | _, .null, _, h => by cases h; exact .null
  | _, .bool b, _, h => by cases h; exact .bool b
  | _, .num value?, _, h => by
      obtain ⟨n, -, rfl⟩ := Option.map_eq_some_iff.1 h
      exact .num n
  | _, .str s, _, h => by cases h; exact .str s
  | 0, .arr _ _, _, h => by cases h
  | depth + 1, .arr items whole, _, h => by
      rw [Source.toJson?] at h
      split_ifs at h
      obtain ⟨vs, hvs, rfl⟩ := Option.map_eq_some_iff.1 h
      exact .arr (Source.inOrder_of_itemsToJson? hvs)
  | 0, .obj _ _, _, h => by cases h
  | depth + 1, .obj members whole, _, h => by
      rw [Source.toJson?] at h
      split_ifs at h
      obtain ⟨ms, hms, rfl⟩ := Option.map_eq_some_iff.1 h
      exact .ofList (Source.inOrder_of_membersToJson? hms)

lemma Source.inOrder_of_itemsToJson? : ∀ {depth : Nat} {items : List Source} {vs : List Json},
    Source.itemsToJson? depth items = some vs → ∀ v ∈ vs, v.InOrder
  | _, [], _, h => by cases h; exact List.forall_mem_nil _
  | depth, tree :: rest, _, h => by
      rw [Source.itemsToJson?] at h
      split at h
      · cases h
      · rename_i first
        obtain ⟨vs, hvs, rfl⟩ := Option.map_eq_some_iff.1 h
        exact List.forall_mem_cons.2
          ⟨Source.inOrder_of_toJson? first, Source.inOrder_of_itemsToJson? hvs⟩

lemma Source.inOrder_of_membersToJson? : ∀ {depth : Nat} {members : List (String × Source)}
    {ms : List (String × Json)},
    Source.membersToJson? depth members = some ms → ∀ entry ∈ ms, entry.2.InOrder
  | _, [], _, h => by cases h; exact List.forall_mem_nil _
  | depth, (name, tree) :: rest, _, h => by
      rw [Source.membersToJson?] at h
      split at h
      · cases h
      · rename_i first
        obtain ⟨ms, hms, rfl⟩ := Option.map_eq_some_iff.1 h
        exact List.forall_mem_cons.2
          ⟨Source.inOrder_of_toJson? first, Source.inOrder_of_membersToJson? hms⟩

end

/-- **A JSON text is read to a value in order.** -/
theorem Json.inOrder_of_parse? {text : String} {v : Json} (h : parse? text = some v) :
    v.InOrder := by
  rw [parse?] at h
  split at h
  · exact Source.inOrder_of_toJson? h
  · cases h

namespace Template

mutual

lemma Value.inOrder_of_toJson? : ∀ {value : Value} {v : Json}, value.toJson? = some v → v.InOrder
  | .undefined _, _, h => by cases h; exact .null
  | .none, _, h => by cases h; exact .null
  | .bool b, _, h => by cases h; exact .bool b
  | .int n, _, h => by
      obtain ⟨w, -, rfl⟩ := Option.map_eq_some_iff.1 h
      exact .num _
  | .float (.finite d), _, h => by cases h; exact .num _
  | .float (.infinite _), _, h => by cases h; exact .null
  | .float .notANumber, _, h => by cases h; exact .null
  | .str s _, _, h => by cases h; exact .str s
  | .seq items, _, h => by
      obtain ⟨vs, hvs, rfl⟩ := Option.map_eq_some_iff.1 h
      exact .arr (Value.inOrder_of_toJsonItems? hvs)
  | .stream items _, _, h => by
      obtain ⟨vs, hvs, rfl⟩ := Option.map_eq_some_iff.1 h
      exact .arr (Value.inOrder_of_toJsonItems? hvs)
  | .map entries, _, h => by
      obtain ⟨ms, hms, rfl⟩ := Option.map_eq_some_iff.1 h
      exact .ofList (Value.inOrder_of_toJsonEntries? hms)
  | .group key members, _, h => by
      obtain ⟨k, hk, h⟩ := Option.bind_eq_some_iff.1 h
      obtain ⟨ms, hms, h⟩ := Option.bind_eq_some_iff.1 h
      cases h
      have parts : ∀ v ∈ [k, .arr ms], v.InOrder := by
        have inside : Json.InOrder (.arr ms) := .arr (Value.inOrder_of_toJsonItems? hms)
        simp [Value.inOrder_of_toJson? hk, inside]
      exact .arr parts
  | .named arguments, _, h => by
      obtain ⟨ms, hms, rfl⟩ := Option.map_eq_some_iff.1 h
      exact .ofList (Value.inOrder_of_toJsonArguments? hms)
  | .function name, _, h => by cases h; exact .str _
  | .closure _, _, h => by cases h; exact .str _
  | .space _, _, h => by cases h; exact .obj .nil (List.forall_mem_nil _)
  | .loop _, _, h => by cases h; exact .str _

lemma Value.inOrder_of_toJsonItems? : ∀ {items : List Value} {vs : List Json},
    Value.toJsonItems? items = some vs → ∀ v ∈ vs, v.InOrder
  | [], _, h => by cases h; exact List.forall_mem_nil _
  | value :: rest, _, h => by
      rw [Value.toJsonItems?] at h
      split at h
      · rename_i first
        obtain ⟨vs, hvs, rfl⟩ := Option.map_eq_some_iff.1 h
        exact List.forall_mem_cons.2
          ⟨Value.inOrder_of_toJson? first, Value.inOrder_of_toJsonItems? hvs⟩
      · cases h

lemma Value.inOrder_of_toJsonEntries? : ∀ {entries : List (Value × Value)}
    {ms : List (String × Json)},
    Value.toJsonEntries? entries = some ms → ∀ entry ∈ ms, entry.2.InOrder
  | [], _, h => by cases h; exact List.forall_mem_nil _
  | (key, value) :: rest, _, h => by
      rw [Value.toJsonEntries?] at h
      split at h
      · rename_i first
        obtain ⟨ms, hms, rfl⟩ := Option.map_eq_some_iff.1 h
        exact List.forall_mem_cons.2
          ⟨Value.inOrder_of_toJson? first, Value.inOrder_of_toJsonEntries? hms⟩
      · cases h

lemma Value.inOrder_of_toJsonArguments? : ∀ {arguments : List (String × Value)}
    {ms : List (String × Json)},
    Value.toJsonArguments? arguments = some ms → ∀ entry ∈ ms, entry.2.InOrder
  | [], _, h => by cases h; exact List.forall_mem_nil _
  | (name, value) :: rest, _, h => by
      rw [Value.toJsonArguments?] at h
      split at h
      · rename_i first
        obtain ⟨ms, hms, rfl⟩ := Option.map_eq_some_iff.1 h
        exact List.forall_mem_cons.2
          ⟨Value.inOrder_of_toJson? first, Value.inOrder_of_toJsonArguments? hms⟩
      · cases h

end

/-- **A template renders to a value in order**, in every context. -/
theorem inOrder_of_render {t : Template} {context : Context} {v : Json}
    (h : t.render context = .ok v) : v.InOrder := by
  rw [render] at h
  split at h
  · cases h; exact .str _
  · split at h
    · cases h
    · split_ifs at h
      split at h
      · rename_i value
        cases h
        exact Value.inOrder_of_toJson? value
      · cases h
  · split at h
    · cases h; exact .str _
    · cases h

end Template

end Connector
