import Connector.Builtins
import Connector.Proofs.Context
import Connector.Proofs.Text.Cutting
import Connector.Task
import Mathlib.Data.List.Induction

/-!
# Which function a name leads to

Functions are registered one after the other, in place of others of the same name.  A name that
nothing is registered under leads to what its last dotted part leads to, so that a registration may
show under names of its own and under longer ones, and an exact one hides it there again.

* `Registry.after` — the registry that registrations leave; `lastUnder` — the last of a name.
* `Registry.IsLastPart` — what follows the last dot of a name.
* `Registry.Leads` — where a name leads, said by the history of registrations.
* `Registry.resolve?_after` — it is where the registry leads.
* `Registry.Extends` — what one more registration changes; `extends_register` — of any registry.
* **`Registry.after_answers`** — names, histories and further registrations together.
-/

namespace Connector

/-- **A registration**: a function under a name. -/
abbrev Registration := String × Callable

namespace Registry

variable {functions : Registry} {history : List Registration} {name other part : String}
  {f : Callable}

/-! ## Histories -/

/-- **The registry that registrations leave**, one after the other. -/
def after (history : List Registration) : Registry :=
  history.foldl (fun functions r => functions.register r.1 r.2) []

/-- The function that was last registered under a name. -/
def lastUnder (name : String) (history : List Registration) : Option Callable :=
  ((history.filter fun r => r.1 = name).getLast?).map (·.2)

lemma after_append (history : List Registration) (r : Registration) :
    after (history ++ [r]) = (after history).register r.1 r.2 := by
  rw [after, List.foldl_append]
  rfl

/-- A history leaves the record of its entries. -/
lemma after_eq_ofList (history : List Registration) : after history = Record.ofList history := by
  have onto (lower : Registry) : history.foldl (fun functions r => functions.register r.1 r.2) lower
      = Record.overlay lower history := by
    induction history generalizing lower with
    | nil => rfl
    | cons r rest ih => exact ih (lower.register r.1 r.2)
  exact onto []

/-- The built-in functions are registered like any others. -/
lemma exists_history_builtins : ∃ history, Builtins.registry = after history :=
  ⟨_, (after_eq_ofList _).symm⟩

lemma lastUnder_append (name : String) (history : List Registration) (r : Registration) :
    lastUnder name (history ++ [r]) = if r.1 = name then some r.2 else lastUnder name history := by
  rw [lastUnder, lastUnder, List.filter_append, List.getLast?_append]
  split_ifs with h <;> simp [h]

/-- **Under a name there is what was last registered under it.** -/
lemma get?_after (name : String) (history : List Registration) :
    Record.get? name (after history) = lastUnder name history := by
  induction history using List.reverseRecOn with
  | nil => rfl
  | append_singleton before r ih =>
      rw [after_append, register, Record.get?_insert, lastUnder_append, ih]

/-! ## The last part of a name -/

/-- **The last part of a name** is what follows its last dot. -/
def IsLastPart (part name : String) : Prop :=
  ∃ front, name.toList = front ++ '.' :: part.toList ∧ '.' ∉ part.toList

lemma lastPart?_eq (name : String) :
    lastPart? name = match (name.toList.splitOn '.').reverse with
      | part :: _ :: _ => some (String.ofList part)
      | _ => none := by
  have dot : ".".toList = ['.'] := rfl
  rw [lastPart?, Text.splitOn, dot, Text.split_singleton, ← List.map_reverse]
  rcases (name.toList.splitOn '.').reverse with _ | ⟨part, _ | ⟨before, rest⟩⟩ <;> rfl

/-- A name without a dot has no last part. -/
lemma lastPart?_eq_none (h : '.' ∉ name.toList) : lastPart? name = none := by
  rw [lastPart?_eq, List.splitOn_eq_singleton h]
  rfl

lemma IsLastPart.lastPart? (h : IsLastPart part name) : Registry.lastPart? name = some part := by
  obtain ⟨front, split, plain⟩ := h
  rw [lastPart?_eq, split, Text.splitOn_last plain, List.reverse_append]
  rcases parts : (front.splitOn '.').reverse with _ | ⟨before, rest⟩
  · exact absurd (List.reverse_eq_nil_iff.1 parts) (List.splitOn_ne_nil _ _)
  · exact congrArg some String.ofList_toList

/-- **What is tried is the last part of a name**, and nothing where it has no dot. -/
lemma lastPart?_eq_some_iff : Registry.lastPart? name = some part ↔ IsLastPart part name := by
  refine ⟨fun h => ?_, IsLastPart.lastPart?⟩
  by_cases dotted : '.' ∈ name.toList
  · obtain ⟨front, back, split, plain⟩ := Text.exists_last dotted
    have last : IsLastPart (String.ofList back) name :=
      ⟨front, by rw [split, String.toList_ofList], by rwa [String.toList_ofList]⟩
    rw [last.lastPart?] at h
    exact Option.some.inj h ▸ last
  · rw [lastPart?_eq_none dotted] at h
    cases h

example : Registry.lastPart? ".cloud..double" = some "double" ∧
    Registry.lastPart? "double." = some "" ∧ Registry.lastPart? "double" = none := by
  decide +kernel

/-! ## Resolution -/

/-- **The function of a name**, or the error that there is none. -/
def resolve (functions : Registry) (name : String) : Except RunError Callable :=
  (functions.resolve? name).elim (.error (.functionNotFound name)) .ok

/-- **A call finds its function by resolution**, behind the rendering of its inputs. -/
lemma perform_eq_resolve (c : Call) (output : Option String) (functions : Registry)
    (context : Context) :
    c.perform output functions context =
      ((Call.renderAll context c.inputs).mapError .template).bind fun inputs =>
        (functions.resolve c.function).bind fun f =>
          (f inputs).mapError (.call c.function output) := by
  rw [Call.perform, resolve]
  cases Call.renderAll context c.inputs with
  | error e => rfl
  | ok inputs => cases functions.resolve? c.function <;> rfl

lemma contains_iff : functions.contains name ↔ ∃ f, functions.resolve name = .ok f := by
  rw [contains, resolve]
  cases functions.resolve? name <;> simp

lemma resolve_eq_of_resolve? {functions later : Registry}
    (h : later.resolve? name = functions.resolve? name) :
    later.resolve name = functions.resolve name := by
  rw [resolve, h, resolve]

/-- **Where a name leads** after a history of registrations: to the last one under itself, else to
the last one under its last part, else nowhere. -/
inductive Leads (history : List Registration) (name : String) :
    Except RunError Callable → Prop where
  | itself {f : Callable} (h : lastUnder name history = some f) : Leads history name (.ok f)
  | lastPart {part : String} {f : Callable} (hn : lastUnder name history = none)
      (hp : IsLastPart part name) (h : lastUnder part history = some f) : Leads history name (.ok f)
  | nowhere (hn : lastUnder name history = none)
      (hp : ∀ part, IsLastPart part name → lastUnder part history = none) :
      Leads history name (.error (.functionNotFound name))

lemma leads_after (history : List Registration) (name : String) :
    Leads history name ((after history).resolve name) := by
  rw [resolve, resolve?, get?_after]
  cases hn : lastUnder name history with
  | some f => exact .itself hn
  | none =>
      cases hp : Registry.lastPart? name with
      | none =>
          refine .nowhere hn fun part last => ?_
          cases hp.symm.trans last.lastPart?
      | some part =>
          have last : IsLastPart part name := lastPart?_eq_some_iff.1 hp
          rw [Option.bind_some, get?_after]
          cases h : lastUnder part history with
          | some f => exact .lastPart hn last h
          | none =>
              refine .nowhere hn fun other last' => ?_
              obtain rfl : part = other := Option.some.inj (hp.symm.trans last'.lastPart?)
              exact h

/-! ## One more registration -/

/-- **The names that a registration decides**: its own, and those that it is the last part of and
that nothing is registered under. -/
def Decides (functions : Registry) (name other : String) : Prop :=
  other = name ∨ IsLastPart name other ∧ other ∉ Record.names functions

/-- **What one more registration changes.** -/
structure Extends (functions later : Registry) (name : String) (f : Callable) : Prop where
  /-- No name that led somewhere leads nowhere. -/
  keeps : ∀ other, functions.contains other → later.contains other
  decided : ∀ other, functions.Decides name other → later.resolve other = .ok f
  others : ∀ other, ¬ functions.Decides name other → later.resolve other = functions.resolve other

/-- Any registry with one more registration. -/
lemma extends_register (functions : Registry) (name : String) (f : Callable) :
    Extends functions (functions.register name f) name f := by
  have unnamed {other : String} : other ∉ Record.names functions ↔
      Record.get? other functions = none := by
    rw [Record.mem_names_iff, Option.not_isSome_iff_eq_none]
  have decided (other : String) (h : functions.Decides name other) :
      (functions.register name f).resolve other = .ok f := by
    rw [resolve, resolve?, register, Record.get?_insert]
    rcases h with rfl | ⟨last, absent⟩
    · rw [if_pos rfl]
      rfl
    · by_cases same : name = other
      · rw [if_pos same]
        rfl
      · rw [if_neg same, unnamed.1 absent, last.lastPart?, Option.bind_some, Record.get?_insert,
          if_pos rfl]
        rfl
  have others (other : String) (h : ¬ functions.Decides name other) :
      (functions.register name f).resolve other = functions.resolve other := by
    obtain ⟨differs, shown⟩ := not_or.1 h
    refine resolve_eq_of_resolve? ?_
    rw [resolve?, resolve?, register, Record.get?_insert, if_neg (Ne.symm differs)]
    cases here : Record.get? other functions with
    | some g => rfl
    | none =>
        refine Option.bind_congr fun part hp => ?_
        have last : IsLastPart part other := lastPart?_eq_some_iff.1 hp
        have apart : name ≠ part := by
          rintro rfl
          exact shown ⟨last, unnamed.2 here⟩
        rw [Record.get?_insert, if_neg apart]
  refine ⟨fun other found => ?_, decided, others⟩
  rw [contains_iff] at found ⊢
  by_cases h : functions.Decides name other
  · exact ⟨f, decided other h⟩
  · rwa [others other h]

/-! ## Together -/

/-- **What a registry answers** for a history of registrations. -/
structure Answers (functions : Registry) (history : List Registration) : Prop where
  leads : ∀ name, Leads history name (functions.resolve name)
  contains : ∀ name, functions.contains name ↔ ∃ f, functions.resolve name = .ok f
  increasing : (Record.names functions).Pairwise (· < ·)
  names : ∀ name, name ∈ Record.names functions ↔ ∃ f, (name, f) ∈ history

lemma mem_names_after : name ∈ Record.names (after history) ↔ ∃ f, (name, f) ∈ history := by
  induction history using List.reverseRecOn with
  | nil => simp [after, Record.names]
  | append_singleton before r ih =>
      obtain ⟨key, g⟩ := r
      rw [after_append, register, Record.mem_names_insert, ih]
      simp [exists_or, or_comm]

/-- **A registry answers by the history of its registrations**, and calls go by its answers.  One
more registration leaves every name that led somewhere leading somewhere; it decides its own name
and those unregistered names that it is the last part of, and no others.  The registry of the
built-in functions has such a history too. -/
theorem after_answers (history : List Registration) :
    (∃ builtins, Builtins.registry = after builtins) ∧ (after history).Answers history ∧
      (∀ name f, Extends (after history) ((after history).register name f) name f) ∧
      ∀ (c : Call) (output : Option String) (context : Context),
        c.perform output (after history) context =
          ((Call.renderAll context c.inputs).mapError .template).bind fun inputs =>
            ((after history).resolve c.function).bind fun f =>
              (f inputs).mapError (.call c.function output) := by
  have ordered : (after history).Ordered := by
    rw [after_eq_ofList]
    exact Record.ordered_ofList history
  refine ⟨exists_history_builtins,
    ⟨leads_after history, fun _ => contains_iff, ?_, fun _ => mem_names_after⟩,
    extends_register (after history), fun c output => perform_eq_resolve c output (after history)⟩
  exact Record.ordered_iff_names.1 ordered

end Registry

end Connector
