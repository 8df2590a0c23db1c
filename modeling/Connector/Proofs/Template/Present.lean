import Connector.Builtins
import Connector.Proofs.Json.InOrder
import Connector.Proofs.Loop.Snapshots
import Connector.Proofs.Template.Absent
import Connector.Job.Forking
import Mathlib.Algebra.Group.Int.Defs

/-!
# Variables that are present

A value of a context becomes a value of expressions and then a JSON value again.  Nothing is lost on
the way, so the output of a name that is in the context is the very value that it has there.

* `Value.toJson?_ofJson` — there and back, by induction on the value.
* `Template.Carries` — a template that hands a value on to tasks, splits, bodies and checkpoints.
* `Carries.of_render` — what a template renders to is handed on.
* **`Template.render_present`** — the output of a variable that is present carries its value.
-/

namespace Connector

lemma WideInt.ofInt?_val (n : WideInt) : ofInt? n.val = some n := dif_pos ⟨n.lower, n.upper⟩

namespace Template

/-! ## There and back -/

namespace Value

lemma toJsonItems?_ofJsonItems {items : List Json}
    (h : ∀ v ∈ items, (ofJson v).toJson? = some v) :
    toJsonItems? (ofJsonItems items) = some items := by
  induction items with
  | nil => rfl
  | cons v rest ih =>
      obtain ⟨first, later⟩ := List.forall_mem_cons.1 h
      rw [ofJsonItems, toJsonItems?, first, ih later]
      rfl

lemma toJsonEntries?_ofJsonFields {fields : List (String × Json)}
    (h : ∀ entry ∈ fields, (ofJson entry.2).toJson? = some entry.2) :
    toJsonEntries? (ofJsonFields fields) = some fields := by
  induction fields with
  | nil => rfl
  | cons entry rest ih =>
      obtain ⟨name, v⟩ := entry
      obtain ⟨first, later⟩ := List.forall_mem_cons.1 h
      rw [ofJsonFields, toJsonEntries?, first, ih later]
      rfl

/-- **A value in order comes back as it went.** -/
theorem toJson?_ofJson {v : Json} (h : v.InOrder) : (ofJson v).toJson? = some v := by
  induction h with
  | null => rfl
  | bool b => rfl
  | num n =>
      cases n with
      | int n => rw [ofJson, toJson?, WideInt.ofInt?_val, Option.map_some]
      | double d => rfl
  | str s => rfl
  | arr _ ih => rw [ofJson, toJson?, toJsonItems?_ofJsonItems ih, Option.map_some]
  | obj ordered _ ih =>
      rw [ofJson, toJson?, toJsonEntries?_ofJsonFields ih, Option.map_some,
        Record.ofList_of_ordered ordered]

lemma isUndefined_ofJson (v : Json) : (ofJson v).isUndefined = false := by
  cases v with
  | num n => cases n <;> rfl
  | _ => rfl

end Value

/-- A name in the context has the value that it has there. -/
lemma Expr.value_name_of_present {context : Context} {name : String} {v : Json}
    (h : Record.get? name context = some v) :
    (Expr.name name).value context = .ok (Value.ofJson v) := by
  rw [Expr.value, Expr.eval_name, Rendering.lookup_start, h]
  cases v with
  | num n => cases n <;> rfl
  | _ => rfl

/-! ## Where a value goes -/

/-- **A template that carries a value** in a context.  A task that sets a variable to it binds the
value and prints nothing, and where it is bound its variable renders to it again; a split of it takes
the value apart; and a request and a checkpoint that have it in a field, and all of whose templates
render, have the value there. -/
structure Carries (t : Template) (context : Context) (v : Json) : Prop where
  task : ∀ (functions : Registry), functions.resolve? "set_var" = some Builtins.setVar →
    ∀ (name : String) (rest : List Task) (outputs : Context),
      Processor.runTasks functions (⟨⟨"set_var", [t]⟩, some name⟩ :: rest) context outputs =
        Processor.runTasks functions rest (Record.insert name v context)
          (Record.insert name v outputs)
  again : ∀ name, IsName name → ∃ u, compile (printing name) = .ok u ∧
    u.render (Record.insert name v context) = .ok v
  split : ∀ s : Split, s.source = t →
    s.contexts context = .ok ((s.elements v).map fun element =>
      Record.insert s.output element context)
  body : ∀ (o : Options) (field : String), Record.get? field o.body = some t →
    (∀ u ∈ o.templates, Loads (u.render context)) →
    ∃ request fields, Loop.render o context = .ok request ∧
      Record.get? field fields = some v ∧ request.body = some (Json.obj fields).compress
  checkpoint : ∀ (c : Checkpoint) (field : String), Record.get? field c.content = some t →
    (∀ u ∈ c.content.values, Loads (u.render context)) →
    ∃ content, c.renderContent context = .ok content ∧ Record.get? field content = some v

/-- A field of rendered values has what its template renders to. -/
lemma get?_renderValues {ts : Record Template} {context fields : Context} {field : String}
    {t : Template} {v : Json} (h : renderValues ts context = .ok fields)
    (hfield : Record.get? field ts = some t) (hv : t.render context = .ok v) :
    Record.get? field fields = some v := by
  obtain ⟨rendered, hr, rfl⟩ := exists_of_map_eq_ok h
  obtain ⟨w, hw, found⟩ := Record.get?_mapValuesM (of_mapError_eq_ok hr) hfield
  rw [hv] at hw
  cases hw
  rwa [Record.get?_sort]

/-- The template of a variable that is present renders to its value. -/
lemma render_printing {name : String} {context : Context} {v : Json}
    (hpresent : Record.get? name context = some v) (horder : v.InOrder) :
    render ⟨printing name, .expression name (.name name)⟩ context = .ok v := by
  simp only [render, Expr.value_name_of_present hpresent, Value.isUndefined_ofJson,
    Value.toJson?_ofJson horder]
  rfl

/-- **What a template renders to is handed on.** -/
lemma Carries.of_render {t : Template} {context : Context} {v : Json}
    (h : t.render context = .ok v) : t.Carries context v where
  task functions hset name rest outputs := by
    have performed : Task.perform ⟨⟨"set_var", [t]⟩, some name⟩ functions context =
        .ok (Builtins.answer v) := by
      rw [Task.perform, Call.perform, Call.renderAll, h]
      simp only [Call.renderAll, Except.map, hset]
      rfl
    rw [Processor.runTasks, performed]
    simp only [Builtins.answer, Task.bind, String.empty_append]
  again name hname := by
    have bound : Record.get? name (Record.insert name v context) = some v := by
      rw [Record.get?_insert, if_pos rfl]
    exact ⟨_, compile_printing hname, render_printing bound (inOrder_of_render h)⟩
  split s hs := by
    rw [Split.contexts, hs, h]
  body o field hfield hall := by
    obtain ⟨request, hrequest⟩ := (Loop.render_loads_iff context o).2 hall
    obtain ⟨fields, own, headers, hfields, -, -, hbody, -⟩ :=
      (Loop.render_eq_ok_iff.1 hrequest).content
    have found := get?_renderValues hfields hfield h
    have some : fields ≠ [] := by
      rintro rfl
      cases found
    exact ⟨request, fields, hrequest, found, by rw [hbody, if_neg some]⟩
  checkpoint c field hfield hall := by
    obtain ⟨content, hcontent⟩ := (renderValues_loads_iff context c.content).2 hall
    exact ⟨content, hcontent, get?_renderValues hcontent hfield h⟩

/-- **A variable that is present is rendered as it is**, whatever its value: its output is exactly
that value, and carries it to wherever it is used. -/
theorem render_present {name : String} (hname : IsName name) {context : Context} {v : Json}
    (hpresent : Record.get? name context = some v) (horder : v.InOrder) :
    ∃ t, compile (printing name) = .ok t ∧ t.render context = .ok v ∧ t.Carries context v := by
  have hrender := render_printing hpresent horder
  exact ⟨_, compile_printing hname, hrender, .of_render hrender⟩

/-- A value with the largest integer and two nulls in it. -/
def lastPage : Json :=
  .obj [("ids", .arr [.null, .num (.int ⟨2 ^ 64 - 1, by omega, by omega⟩)]), ("next", .null)]

lemma lastPage_inOrder : lastPage.InOrder := by
  have ids : ∀ v ∈ [Json.null, .num (.int ⟨2 ^ 64 - 1, by omega, by omega⟩)], v.InOrder :=
    List.forall_mem_cons.2 ⟨.null, List.forall_mem_singleton.2 (.num _)⟩
  refine .obj (List.pairwise_pair.2 (by decide)) (List.forall_mem_cons.2 ⟨.arr ids, ?_⟩)
  exact List.forall_mem_singleton.2 .null

theorem render_present_lastPage :
    IsName "page" ∧ Record.get? "page" [("page", lastPage)] = some lastPage ∧ lastPage.InOrder ∧
      ∃ t, compile (printing "page") = .ok t ∧ t.render [("page", lastPage)] = .ok lastPage ∧
        t.Carries [("page", lastPage)] lastPage :=
  ⟨by decide, rfl, lastPage_inOrder, render_present (by decide) rfl lastPage_inOrder⟩

end Template

end Connector
