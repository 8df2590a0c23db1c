import Connector.Proofs.Load.WellFormed
import Connector.Proofs.Template.Around
import Connector.Proofs.Work
import Connector.Job.Loop

/-!
# Variables that are absent

An output of a name that is neither in the context nor the one of a function fails, whatever text
stands around it, and nothing comes out of a template that fails.

* `Loop.render_loads_iff`, `renderAll_loads_iff`, … — a request, the inputs of a call and a
  checkpoint render if all of their templates do.
* `Template.Barred` — a template of which no request, input or checkpoint is made.
* `Template.render_absent` — the output of an absent variable is missing, and barred.
-/

namespace Connector

open Loads

variable {ε α β : Type}

/-! ## What renders with its templates -/

/-- The templates of a request. -/
def Options.templates (o : Options) : List Template :=
  o.url :: (o.headers.values ++ (o.body.values ++
    match o.credentials with
    | some c => [c.username, c.password]
    | none => []))

/-- The templates of a checkpoint. -/
def Checkpoint.templates (c : Checkpoint) : List Template := c.scope ++ c.content.values

/-- A record of steps that may fail succeeds if each of them does. -/
lemma Record.mapValuesM_loads_iff (f : α → Except ε β) (r : Record α) :
    Loads (r.mapValuesM f) ↔ ∀ a ∈ r.values, Loads (f a) := by
  induction r with
  | nil => exact ⟨nofun, fun _ => ⟨[], rfl⟩⟩
  | cons entry rest ih =>
    obtain ⟨name, a⟩ := entry
    rw [mapValuesM, values, List.map_cons, List.forall_mem_cons]
    rw [values] at ih
    rw [← ih]
    exact bind_iff fun b => bind_pure_iff _ _

section

variable (context : Context)

/-- A template that renders to a value renders to a text, too. -/
lemma renderText_loads_iff (t : Template) :
    Loads (t.renderText context) ↔ Loads (t.render context) :=
  map_iff _ _

/-- Headers are rendered if each of them is. -/
lemma renderTexts_loads_iff (ts : Record Template) :
    Loads (renderTexts ts context) ↔ ∀ t ∈ ts.values, Loads (t.render context) := by
  rw [renderTexts, map_iff, mapError_iff, Record.mapValuesM_loads_iff]
  simp only [renderText_loads_iff]

/-- Fields are rendered if each of them is. -/
lemma renderValues_loads_iff (ts : Record Template) :
    Loads (renderValues ts context) ↔ ∀ t ∈ ts.values, Loads (t.render context) := by
  rw [renderValues, map_iff, mapError_iff, Record.mapValuesM_loads_iff]

/-- So are inputs of a call, and parts of a scope. -/
lemma renderAll_loads_iff (ts : List Template) :
    Loads (Call.renderAll context ts) ↔ ∀ t ∈ ts, Loads (t.render context) := by
  induction ts with
  | nil => simp [Call.renderAll]
  | cons t ts ih =>
    rw [Call.renderAll, List.forall_mem_cons, ← ih]
    cases t.render context <;> simp

lemma renderAllTexts_loads_iff (ts : List Template) :
    Loads (Checkpoint.renderAllTexts context ts) ↔ ∀ t ∈ ts, Loads (t.render context) := by
  induction ts with
  | nil => simp [Checkpoint.renderAllTexts]
  | cons t ts ih =>
    rw [Checkpoint.renderAllTexts, List.forall_mem_cons, ← ih, ← renderText_loads_iff]
    cases t.renderText context <;> simp

/-- Credentials are used if both of them are rendered. -/
lemma Credentials.authorize_loads_iff (c : Credentials) (headers : Record String) :
    Loads (c.authorize context headers) ↔
      Loads (c.username.render context) ∧ Loads (c.password.render context) := by
  rw [← renderText_loads_iff, ← renderText_loads_iff,
    ← mapError_iff (c.username.renderText context) RunError.template,
    ← mapError_iff (c.password.renderText context) RunError.template]
  exact bind_iff fun username => bind_pure_iff _ _

lemma Options.authorize_loads_iff (o : Options) (headers : Record String) :
    Loads (o.authorize context headers) ↔
      ∀ c ∈ o.credentials,
        Loads (c.username.render context) ∧ Loads (c.password.render context) := by
  rw [Options.authorize]
  cases o.credentials with
  | none => simp
  | some c => simp [Credentials.authorize_loads_iff]

/-- **A request renders if all of its templates do.** -/
lemma Loop.render_loads_iff (o : Options) :
    Loads (Loop.render o context) ↔ ∀ t ∈ o.templates, Loads (t.render context) := by
  have parts : Loads (Loop.render o context) ↔ Loads (o.renderUrl context) ∧
      Loads (o.renderHeaders context) ∧ Loads (o.renderBody context) ∧
      ∀ c ∈ o.credentials,
        Loads (c.username.render context) ∧ Loads (c.password.render context) := by
    refine bind_iff fun url => bind_iff fun headers => bind_iff fun body => ?_
    rw [← Options.authorize_loads_iff context o headers]
    exact bind_pure_iff _ _
  rw [parts, Options.renderUrl, mapError_iff, renderText_loads_iff, Options.renderHeaders,
    renderTexts_loads_iff, Options.renderBody, renderValues_loads_iff, Options.templates]
  cases o.credentials <;> simp [or_imp, forall_and]

end

namespace Template

/-! ## Templates that nothing comes out of -/

/-- **A template that is barred in a context**: no request that holds it is made ready, and all
that is seen of one is its state; no call gets it as an input; and no checkpoint is written that
holds it in its namespace or its content. -/
structure Barred (t : Template) (context : Context) : Prop where
  request : ∀ (l : Loop) (w : World), t ∈ l.request.options.templates →
    ∃ e, l.ready context w = (.error (.failed e), w.display l.token .running)
  input : ∀ (c : Call) (output : Option String) (functions : Registry), t ∈ c.inputs →
    ∃ e, c.perform output functions context = .error (.template e)
  checkpoint : ∀ (l : Loop) (c : Checkpoint) (w : World), l.request.checkpoint = some c →
    t ∈ c.templates → ∃ e, l.writeCheckpoint context w = (.error (.failed e), w)

/-- What fails is barred. -/
lemma Barred.of_not_loads {t : Template} {context : Context} (h : ¬ Loads (t.render context)) :
    t.Barred context where
  request l w ht := by
    obtain ⟨e, he⟩ := exists_error fun hall => h ((Loop.render_loads_iff context _).mp hall t ht)
    refine ⟨e, ?_⟩
    rw [Loop.ready, Work.bind_ok (Work.publish_apply _ _ w), he, Work.attempt_error]
    exact Work.bind_error (Work.fail_apply e _) _
  input c output functions ht := by
    obtain ⟨e, he⟩ := exists_error fun hall => h ((renderAll_loads_iff context _).mp hall t ht)
    exact ⟨e, by rw [Call.perform, he]⟩
  checkpoint l c w hc ht := by
    have herror : ¬ Loads (c.renderScope context) ∨ ¬ Loads (c.renderContent context) := by
      rcases List.mem_append.mp ht with hscope | hcontent
      · left
        rw [Checkpoint.renderScope, mapError_iff, renderAllTexts_loads_iff]
        exact fun hall => h (hall t hscope)
      · right
        rw [Checkpoint.renderContent, renderValues_loads_iff]
        exact fun hall => h (hall t hcontent)
    rw [Loop.writeCheckpoint, hc]
    dsimp only
    cases hscope : c.renderScope context with
    | error e => exact ⟨e, Work.bind_error (Work.fail_apply e w) _⟩
    | ok scope =>
      obtain ⟨e, he⟩ := exists_error (herror.resolve_left (not_not_intro ⟨scope, hscope⟩))
      rw [Work.attempt_ok, Work.bind_ok (Work.pure_apply scope w), he]
      exact ⟨e, Work.bind_error (Work.fail_apply e w) _⟩

/-! ## Absent variables -/

/-- A name that is not known comes to a missing value. -/
lemma Expr.value_name_of_absent {context : Context} {name : String}
    (h : (Rendering.start [] context).lookup name = none) :
    (Expr.name name).value context = .ok Value.missing := by
  rw [Expr.value, Expr.eval_name, h]
  rfl

/-- Printing a value that is missing fails, by induction on the texts before it, which change nothing
but what has been printed. -/
lemma Stmt.execAll_absent {run : List Stmt → RenderM Unit} {name : String} {before : List Stmt}
    (hbefore : ∀ s ∈ before, ∃ text, s = .plain text) (behind : List Stmt) {r : Rendering}
    (h : r.lookup name = none) :
    (Stmt.execAll run (before ++ .output (.name name) :: behind)).run r =
      .error .undefinedValue := by
  induction before generalizing r with
  | nil =>
    rw [List.nil_append, Stmt.execAll, StateT.run_bind, Stmt.exec, StateT.run_bind,
      Expr.eval_name, h]
    rfl
  | cons s before ih =>
    obtain ⟨text, rfl⟩ := hbefore s (by simp)
    rw [List.cons_append, Stmt.execAll, StateT.run_bind, Stmt.exec]
    exact ih (fun s hs => hbefore s (by simp [hs])) h

/-- Behind plain texts the output of a missing value fails, whatever follows it. -/
lemma Stmt.render_missing {name : String} {context : Context} {before : List Stmt}
    (hbefore : ∀ s ∈ before, ∃ text, s = .plain text) (behind : List Stmt)
    (h : ∀ body, (Rendering.start body context).lookup name = none) :
    Stmt.render (before ++ .output (.name name) :: behind) context = .error .undefinedValue := by
  rw [Stmt.render, Stmt.execAll_absent hbefore behind (h _)]
  rfl

/-- **An absent variable is never printed.**  Where a name is neither in the context nor the one of
a function, its output fails for want of it, alone and with literal text around it; so no request,
input or checkpoint comes out of it. -/
theorem render_absent {name : String} (hname : IsName name)
    (hfunction : name ∉ Rendering.functionNames) {context : Context}
    (habsent : Record.get? name context = none) {before after : String}
    (hbefore : hasInset (before ++ "\x7b") = false) (hafter : hasInset after = false)
    (hbrace : ¬ (before = "" ∧ after = "\x7d")) :
    ∃ t e, compile (before ++ printing name ++ after) = .ok t ∧ t.render context = .error e ∧
      e.isMissing ∧ t.Barred context := by
  have hlookup : ∀ body, (Rendering.start body context).lookup name = none := by
    intro body
    rw [Rendering.lookup_start, habsent]
    simp [hfunction]
  obtain ⟨t, e, hcompile, hrender, hmissing⟩ : ∃ t e,
      compile (before ++ printing name ++ after) = .ok t ∧ t.render context = .error e ∧
        e.isMissing := by
    by_cases hsole : before = "" ∧ after = ""
    · obtain ⟨rfl, rfl⟩ := hsole
      rw [String.empty_append, String.append_empty]
      refine ⟨_, .undefined (printing name) name, compile_printing hname, ?_, rfl⟩
      simp only [render, Expr.value_name_of_absent (hlookup [])]
      rfl
    · obtain ⟨after', hcompile⟩ := compile_around hname hbefore hafter hsole hbrace
      refine ⟨_, .fault (before ++ printing name ++ after) .undefinedValue, hcompile, ?_, rfl⟩
      have hfault := Stmt.render_missing (mem_plainStmt before.toList) (plainStmt after') hlookup
      simp only [render, hfault]
  exact ⟨t, e, hcompile, hrender, hmissing, .of_not_loads (by simp [hrender])⟩

/-- The next page is asked for by a number that the context does not have. -/
theorem render_absent_page : IsName "page" ∧ "page" ∉ Rendering.functionNames ∧
    Record.get? "page" [("host", Json.str "a")] = none ∧
    hasInset ("items?page=" ++ "\x7b") = false ∧ hasInset "&all" = false ∧
    ∃ t e, compile ("items?page=" ++ printing "page" ++ "&all") = .ok t ∧
      t.render [("host", .str "a")] = .error e ∧ e.isMissing ∧ t.Barred [("host", .str "a")] := by
  have hname : IsName "page" := by decide
  have hfunction : "page" ∉ Rendering.functionNames := by decide
  have hbefore : hasInset ("items?page=" ++ "\x7b") = false := by decide +kernel
  have hafter : hasInset "&all" = false := by decide +kernel
  exact ⟨hname, hfunction, rfl, hbefore, hafter,
    render_absent hname hfunction rfl hbefore hafter (by decide)⟩

/-- A function is no variable of the context, and is printed all the same; and one brace behind the
output is no text. -/
theorem render_not_missing :
    (IsName "range" ∧ Record.get? "range" ([] : Context) = none ∧
      ∃ t, compile (printing "range") = .ok t ∧
        t.render [] = .ok (.str "minijinja::functions::builtins::range")) ∧
    IsName "page" ∧ Record.get? "page" ([] : Context) = none ∧ hasInset "\x7d" = false ∧
      ∀ t, compile (printing "page" ++ "\x7d") ≠ .ok t := by
  have hrange : IsName "range" := by decide
  have hpage : IsName "page" := by decide
  have hsole : soleExpression? (printing "page" ++ "\x7d") = some "page \x7d" := by decide +kernel
  have htokens : Token.ofExpression "page \x7d" = [.name "page", .sign .closeBrace] := by
    decide +kernel
  have hread : Expr.read? (Token.ofExpression "page \x7d") = .error .syntaxError := by
    rw [htokens]
    rfl
  refine ⟨⟨hrange, rfl, _, compile_printing hrange, rfl⟩, hpage, rfl, rfl, ?_⟩
  intro t h
  rw [compile_sole_fault rfl hsole hread] at h
  cases h

end Template

end Connector
