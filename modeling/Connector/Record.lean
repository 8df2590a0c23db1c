/-!
# Records: values by name, in name order

Contexts, headers, stores and JSON objects all map names to values and are shown in the order of
their names.  A `Record` is the list of its entries; `insert` puts a new name where the order
wants it and replaces the value of a name that is already there.

* `Record.get?` — the value under a name.
* `Record.insert`, `Record.erase`, `Record.overlay` — the three ways a record changes.
* `Record.ofList` — the record of a list of entries, where a later entry wins.
* `Record.sort`, `Record.arrange` — into the order of names, and into any other one.
* `Bindings` — a record together with the order of its names.

Each operation is pinned by what it does to `get?`; none of those laws needs the order.  What loading
makes of a map, whose order nobody fixes, is a list of entries in any order.
-/

namespace Connector

/-- **A record** lists its entries in the order of their names. -/
abbrev Record (α : Type) := List (String × α)

namespace Record

variable {α β : Type}

/-- The value under a name. -/
def get? (key : String) : Record α → Option α
  | [] => none
  | (k, v) :: rest => if k = key then some v else get? key rest

/-- Whether a name is present. -/
def has (key : String) (r : Record α) : Bool := (get? key r).isSome

/-- **Add or replace one entry**, keeping the order of names. -/
def insert (key : String) (value : α) : Record α → Record α
  | [] => [(key, value)]
  | (k, v) :: rest =>
    if key < k then (key, value) :: (k, v) :: rest
    else if k = key then (key, value) :: rest
    else (k, v) :: insert key value rest

/-- Remove every entry of a name. -/
def erase (key : String) : Record α → Record α
  | [] => []
  | (k, v) :: rest => if k = key then erase key rest else (k, v) :: erase key rest

/-- Insert all entries of `upper`, in order, so that they win over those of `lower`. -/
def overlay (lower : Record α) : Record α → Record α
  | [] => lower
  | (k, v) :: rest => overlay (insert k v lower) rest

/-- The record of a list of entries; of two entries with one name the later wins. -/
def ofList (entries : List (String × α)) : Record α := overlay [] entries

/-- The entries in the order of their names; of two entries with one name the first wins. -/
def sort : Record α → Record α
  | [] => []
  | (k, v) :: rest => insert k v (sort rest)

/-- **The entries in another order**: first those of the given names, then the others. -/
def arrange : List String → Record α → Record α
  | [], r => r
  | name :: names, r =>
    match get? name r with
    | some v => (name, v) :: arrange names (erase name r)
    | none => arrange names r

/-- The names, in order. -/
def names (r : Record α) : List String := r.map (·.1)

/-- The values, in the order of their names. -/
def values (r : Record α) : List α := r.map (·.2)

/-- Change every value, keeping the names. -/
def mapValues (f : α → β) (r : Record α) : Record β := r.map fun (k, v) => (k, f v)

/-- Change every value by a step that may fail; the first failure in name order is the result. -/
def mapValuesM {m : Type → Type} [Monad m] (f : α → m β) : Record α → m (Record β)
  | [] => pure []
  | (k, v) :: rest => do
    let w ← f v
    let ws ← mapValuesM f rest
    pure ((k, w) :: ws)

/-! ## What each operation does to `get?` -/

@[simp] theorem get?_nil (key : String) : get? key ([] : Record α) = none := rfl

/-- What is under a name after one insertion. -/
theorem get?_insert (r : Record α) (key : String) (value : α) (other : String) :
    get? other (insert key value r) = if key = other then some value else get? other r := by
  induction r with
  | nil => simp [insert, get?]
  | cons entry rest ih =>
    obtain ⟨k, v⟩ := entry
    by_cases hlt : key < k
    · simp [insert, hlt, get?]
    · by_cases heq : k = key
      · subst heq
        simp only [insert, hlt, if_false, if_true, get?]
        by_cases h : k = other <;> simp [h]
      · simp only [insert, hlt, heq, if_false, get?, ih]
        by_cases h : k = other
        · subst h
          simp [Ne.symm heq]
        · simp [h]

/-- What is under a name after one is erased. -/
theorem get?_erase (r : Record α) (key other : String) :
    get? other (erase key r) = if key = other then none else get? other r := by
  induction r with
  | nil => simp [erase, get?]
  | cons entry rest ih =>
    obtain ⟨k, v⟩ := entry
    by_cases heq : k = key
    · subst heq
      simp only [erase, if_true, ih, get?]
      by_cases h : k = other <;> simp [h]
    · simp only [erase, heq, if_false, get?, ih]
      by_cases h : k = other
      · subst h
        simp [Ne.symm heq]
      · simp [h]

/-- To sort a record moves no value to another name. -/
@[simp] theorem get?_sort (r : Record α) (key : String) : get? key (sort r) = get? key r := by
  induction r with
  | nil => rfl
  | cons entry rest ih =>
    obtain ⟨k, v⟩ := entry
    rw [sort, get?_insert, ih, get?]

/-! ## Order -/

/-- The names are in strictly increasing order. -/
def Ordered (r : Record α) : Prop := r.Pairwise fun a b => a.1 < b.1

/-- The names after an insertion are those before and the new one. -/
theorem fst_of_mem_insert {r : Record α} {key : String} {value : α} {entry : String × α}
    (h : entry ∈ insert key value r) : entry.1 = key ∨ entry ∈ r := by
  induction r with
  | nil => simp [insert] at h; simp [h]
  | cons head rest ih =>
    obtain ⟨k, v⟩ := head
    simp only [insert] at h
    split at h
    · rcases List.mem_cons.1 h with rfl | h
      · exact .inl rfl
      · exact .inr h
    · split at h
      · rcases List.mem_cons.1 h with rfl | h
        · exact .inl rfl
        · exact .inr (List.mem_cons_of_mem _ h)
      · rcases List.mem_cons.1 h with rfl | h
        · exact .inr (List.mem_cons_self ..)
        · exact (ih h).imp_right (List.mem_cons_of_mem _)

/-- An insertion keeps the order of names. -/
theorem Ordered.insert {r : Record α} (h : r.Ordered) (key : String) (value : α) :
    (Record.insert key value r).Ordered := by
  induction r with
  | nil => simp [Record.insert, Ordered]
  | cons head rest ih =>
    obtain ⟨k, v⟩ := head
    have first := (List.pairwise_cons.1 h).1
    have later : Ordered rest := (List.pairwise_cons.1 h).2
    simp only [Record.insert]
    split
    · rename_i lt
      refine List.pairwise_cons.2 ⟨fun e he => ?_, h⟩
      rcases List.mem_cons.1 he with rfl | he
      · exact lt
      · exact String.lt_trans lt (first e he)
    · split
      · rename_i same
        subst same
        exact List.pairwise_cons.2 ⟨first, later⟩
      · rename_i notLt notSame
        refine List.pairwise_cons.2 ⟨fun e he => ?_, ih later⟩
        rcases fst_of_mem_insert he with eq | he
        · rw [eq]
          exact Std.lt_of_le_of_ne (String.not_lt.1 notLt) notSame
        · exact first e he

theorem Ordered.overlay {r : Record α} (h : r.Ordered) (upper : Record α) :
    (Record.overlay r upper).Ordered := by
  induction upper generalizing r with
  | nil => exact h
  | cons head rest ih =>
    obtain ⟨k, v⟩ := head
    exact ih (h.insert k v)

/-- A record that is sorted is in the order of names. -/
theorem ordered_sort (r : Record α) : (sort r).Ordered := by
  induction r with
  | nil => exact List.Pairwise.nil
  | cons entry rest ih => exact ih.insert entry.1 entry.2

theorem ordered_ofList (entries : List (String × α)) : (ofList entries).Ordered :=
  Ordered.overlay List.Pairwise.nil entries

end Record

/-- **A record whose names are in order**, so that each occurs once. -/
structure Bindings (α : Type) where
  entries : Record α
  ordered : entries.Ordered

namespace Bindings

variable {α : Type}

/-- No bindings. -/
def empty : Bindings α := ⟨[], List.Pairwise.nil⟩

instance : Inhabited (Bindings α) := ⟨empty⟩

/-- The bindings of a list of entries; of two entries with one name the later wins. -/
def ofList (entries : List (String × α)) : Bindings α :=
  ⟨Record.ofList entries, Record.ordered_ofList entries⟩

end Bindings

end Connector
