import Connector.Load
import Mathlib.Tactic.Common

/-!
# What loading gives

* `Record.names_mapValuesM`, `Record.get?_mapValuesM` — every name keeps its place and gets what its
  value comes to.
* `Request.Labelled` — the processors of a request carry the labels of their places.
* `Definition.Request.labelled_of_load` — every request that loads is labelled so.
-/

namespace Connector

/-- Whether the processors of a request carry the labels that loading gives them. -/
def Request.Labelled (r : Request) : Prop :=
  r.before.label = "pre_process" ∧ r.after.label = "post_process"

/-- Loading goes step by step, and all steps of a load that succeeds succeed. -/
lemma exists_of_bind_eq_ok {ε α β : Type} {x : Except ε α} {f : α → Except ε β} {b : β}
    (h : (x >>= f) = .ok b) : ∃ a, x = .ok a ∧ f a = .ok b := by
  cases x with
  | error e => cases h
  | ok a => exact ⟨a, rfl, h⟩

/-- A function on the value of a load, taken off. -/
lemma exists_of_map_eq_ok {ε α β : Type} {x : Except ε α} {f : α → β} {b : β}
    (h : x.map f = .ok b) : ∃ a, x = .ok a ∧ f a = b := by
  cases x with
  | error e => cases h
  | ok a => exact ⟨a, rfl, Except.ok.inj h⟩

lemma of_mapError_eq_ok {ε ε' α : Type} {x : Except ε α} {f : ε → ε'} {a : α}
    (h : x.mapError f = .ok a) : x = .ok a := by
  cases x with
  | error e => cases h
  | ok b =>
      cases h
      rfl

namespace Record

variable {ε α β : Type} {f : α → Except ε β} {r : Record α} {s : Record β}

/-- A map is loaded under the names that it has. -/
lemma names_mapValuesM (h : r.mapValuesM f = .ok s) : names s = names r := by
  induction r generalizing s with
  | nil => cases h; rfl
  | cons entry rest ih =>
      obtain ⟨k, v⟩ := entry
      obtain ⟨w, -, h⟩ := exists_of_bind_eq_ok h
      obtain ⟨ws, later, h⟩ := exists_of_bind_eq_ok h
      cases h
      exact congrArg (k :: ·) (ih later)

/-- What is under a name of a loaded map is what was loaded from under it. -/
lemma get?_mapValuesM {key : String} {a : α} (h : r.mapValuesM f = .ok s)
    (hkey : get? key r = some a) : ∃ b, f a = .ok b ∧ get? key s = some b := by
  induction r generalizing s with
  | nil => cases hkey
  | cons entry rest ih =>
      obtain ⟨k, v⟩ := entry
      obtain ⟨w, first, h⟩ := exists_of_bind_eq_ok h
      obtain ⟨ws, later, h⟩ := exists_of_bind_eq_ok h
      cases h
      rw [get?] at hkey ⊢
      split_ifs at hkey ⊢
      · cases hkey
        exact ⟨w, first, rfl⟩
      · exact ih later hkey

end Record

namespace Definition

/-- A processor is loaded under the label that it is given. -/
lemma Processor.label_of_load {label : String} {p : Processor} {q : Connector.Processor}
    (h : p.load label = .ok q) : q.label = label := by
  obtain ⟨gate, -, h⟩ := exists_of_bind_eq_ok h
  obtain ⟨pipeline, -, h⟩ := exists_of_bind_eq_ok h
  cases h
  rfl

theorem Request.labelled_of_load {d : Request} {index : Nat} {request : Connector.Request}
    (h : d.load index = .ok request) : request.Labelled := by
  obtain ⟨options, -, h⟩ := exists_of_bind_eq_ok h
  obtain ⟨before, hb, h⟩ := exists_of_bind_eq_ok h
  obtain ⟨after, ha, h⟩ := exists_of_bind_eq_ok h
  obtain ⟨repetition, -, h⟩ := exists_of_bind_eq_ok h
  obtain ⟨checkpoint, -, h⟩ := exists_of_bind_eq_ok h
  cases h
  exact ⟨Processor.label_of_load hb, Processor.label_of_load ha⟩

end Definition

end Connector
