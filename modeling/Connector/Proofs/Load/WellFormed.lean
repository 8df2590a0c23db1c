import Connector.Engine
import Connector.Proofs.Load

/-!
# Which definitions load

A definition is well-formed if nothing is lacking and every template in it compiles.  This file says
so part by part, without a word of loading, and shows that the parts that load are the well-formed
ones.

* `Definition.Compiles`, `Definition.HasText`, `Definition.Given` — what is asked of texts.
* `Definition.Loop.WellFormed`, `Definition.Stage.WellFormed`, … — what is asked of each part.
* `Loads` — whether a load succeeds; its lemmas follow the steps of a load.
* `Definition.Loop.loads_iff`, `Definition.Job.loads_iff`, … — one equivalence for each part.
* **`Engine.loads_iff`** — the whole definition; **`Engine.load_request_error`**,
  **`Engine.load_job_error`** — what the error names.
-/

namespace Connector

namespace Definition

/-! ## Well-formed parts -/

/-- The source of a template compiles. -/
def Compiles (source : String) : Prop := ∃ t, Template.compile source = .ok t

/-- There is more than blanks in a text. -/
def HasText (s : String) : Prop := ∃ c ∈ s.toList, Text.isBlank c = false

/-- A text that has to be there is there, and compiles. -/
def Given (s : Option String) : Prop := ∃ source, s = some source ∧ source ≠ "" ∧ Compiles source

/-- A call names a function, and its inputs compile. -/
structure WellFormedCall (function : String) (inputs : List String) : Prop where
  named : HasText function
  inputs : ∀ source ∈ inputs, Compiles source

/-- All templates of a record compile. -/
def WellFormedRecord (b : Bindings String) : Prop := ∀ entry ∈ b.entries, Compiles entry.2

/-- **A condition.** -/
def Condition.WellFormed (c : Condition) : Prop := WellFormedCall c.function c.inputs

/-- **A task.** -/
def Task.WellFormed (t : Task) : Prop := WellFormedCall t.function t.inputs

/-- **A processor.** -/
structure Processor.WellFormed (p : Processor) : Prop where
  conditions : ∀ c ∈ p.conditions, c.WellFormed
  pipeline : ∀ t ∈ p.pipeline, t.WellFormed

/-- **A repetition** ends: it is none, or it has a stop condition. -/
structure Repetition.WellFormed (r : Repetition) : Prop where
  conditions : ∀ c ∈ r.stopConditions, c.WellFormed
  ends : Text.lower (Text.trim r.kind) = "once" ∨ r.stopConditions ≠ []

/-- **A checkpoint** has content. -/
structure Checkpoint.WellFormed (c : Checkpoint) : Prop where
  some : c.content.entries ≠ []
  scope : ∀ source ∈ c.scope, Compiles source
  content : WellFormedRecord c.content

/-- **Credentials** are complete. -/
structure Credentials.WellFormed (c : Credentials) : Prop where
  username : Given c.username
  password : Given c.password

/-- **What a request sends** has an address. -/
structure Options.WellFormed (o : Options) : Prop where
  address : HasText o.url
  url : Compiles o.url
  headers : WellFormedRecord o.headers
  body : WellFormedRecord o.body
  credentials : ∀ c ∈ o.credentials, c.WellFormed

/-- **A request loop.** -/
structure Loop.WellFormed (l : Loop) : Prop where
  options : l.options.WellFormed
  before : l.before.WellFormed
  after : l.after.WellFormed
  repetition : l.repetition.WellFormed
  checkpoint : ∀ c ∈ l.checkpoint, c.WellFormed

/-- **A request.** -/
def Request.WellFormed (r : Request) : Prop := r.loop.WellFormed

/-- **A stage**; a split has an output, and no empty delimiter. -/
def Stage.WellFormed : Stage → Prop
  | .http _ loop => loop.WellFormed
  | .split _ source delimiter output => Compiles source ∧ output ≠ "" ∧ delimiter ≠ some ""
  | .process _ p => p.WellFormed

/-- **A job** has a stage. -/
structure Job.WellFormed (j : Job) : Prop where
  some : j.stages ≠ []
  stages : ∀ stage ∈ j.stages, stage.WellFormed

end Definition

/-- There is something to run. -/
def Definition.HasWork (d : Definition) : Prop := d.requests ≠ [] ∨ d.jobs ≠ []

/-- The log level is known. -/
def Definition.HasLevel (d : Definition) : Prop :=
  ∃ level, LogLevel.ofText? d.settings.logging.level = some level

/-- **The definition of a connector.** -/
structure Definition.WellFormed (d : Definition) : Prop where
  work : d.HasWork
  level : d.HasLevel
  requests : ∀ r ∈ d.requests, r.WellFormed
  jobs : ∀ j ∈ d.jobs, j.WellFormed

/-! ## Loads that succeed -/

/-- **A load that succeeds.** -/
def Loads {ε α : Type} (r : Except ε α) : Prop := ∃ a, r = .ok a

namespace Loads

variable {ε ε' α β : Type}

@[simp] lemma ok_iff (a : α) : Loads (.ok a : Except ε α) ↔ True := ⟨fun _ => trivial, fun _ => ⟨a, rfl⟩⟩

@[simp] lemma error_iff (e : ε) : Loads (.error e : Except ε α) ↔ False := ⟨nofun, False.elim⟩

/-- A load that does not succeed has an error. -/
lemma exists_error {r : Except ε α} (h : ¬ Loads r) : ∃ e, r = .error e := by
  rcases r with e | a
  · exact ⟨e, rfl⟩
  · exact absurd ⟨a, rfl⟩ h

/-- What is made of the value does not matter. -/
@[simp] lemma map_iff (r : Except ε α) (f : α → β) : Loads (r.map f) ↔ Loads r := by
  rcases r with e | a
  · exact ⟨nofun, nofun⟩
  · exact ⟨fun _ => ⟨a, rfl⟩, fun _ => ⟨f a, rfl⟩⟩

@[simp] lemma mapError_iff (r : Except ε α) (f : ε → ε') : Loads (r.mapError f) ↔ Loads r := by
  rcases r with e | a
  · exact ⟨nofun, nofun⟩
  · exact ⟨fun _ => ⟨a, rfl⟩, fun _ => ⟨a, rfl⟩⟩

/-- One step after the other, where the second one succeeds or not whatever the first one gives. -/
lemma bind_iff {r : Except ε α} {f : α → Except ε β} {p : Prop} (h : ∀ a, Loads (f a) ↔ p) :
    Loads (r >>= f) ↔ Loads r ∧ p := by
  rcases r with e | a
  · exact ⟨nofun, fun h => nomatch h.1⟩
  · exact (h a).trans (by simp)

/-- The last step does nothing that could fail. -/
lemma bind_pure_iff (r : Except ε α) (f : α → β) :
    Loads (r >>= fun a => pure (f a)) ↔ Loads r := by
  have parts : Loads (r >>= fun a => pure (f a)) ↔ Loads r ∧ True := bind_iff fun a => ok_iff (f a)
  rw [parts, and_true]

end Loads

namespace Definition

open Loads

variable {α β : Type}

lemma compile_iff (source : String) : Loads (compile source) ↔ Compiles source :=
  mapError_iff _ _

/-- A list of texts loads if each of them compiles. -/
lemma compileAll_iff (sources : List String) :
    Loads (compileAll sources) ↔ ∀ source ∈ sources, Compiles source := by
  induction sources with
  | nil => simp [compileAll]
  | cons source rest ih =>
      rw [compileAll, List.forall_mem_cons, ← compile_iff, ← ih]
      rcases compile source with e | t <;> simp

lemma compileRecord_iff (b : Bindings String) : Loads (compileRecord b) ↔ WellFormedRecord b := by
  rw [compileRecord, Record.arrange, WellFormedRecord]
  induction b.entries with
  | nil => exact ⟨nofun, fun _ => ⟨[], rfl⟩⟩
  | cons entry rest ih =>
      obtain ⟨name, source⟩ := entry
      rw [Record.mapValuesM, List.forall_mem_cons, ← ih, ← compile_iff]
      exact bind_iff fun t => bind_pure_iff _ _

/-- A list loads if all of it does. -/
lemma loadAll_iff {load : α → Except RunError β} {p : α → Prop} (h : ∀ x, Loads (load x) ↔ p x)
    (xs : List α) : Loads (loadAll load xs) ↔ ∀ x ∈ xs, p x := by
  induction xs with
  | nil => simp [loadAll]
  | cons x rest ih =>
      rw [loadAll, List.forall_mem_cons, ← ih, ← h]
      rcases load x with e | y <;> simp

/-- What may be absent loads if it is absent. -/
lemma loadOptional_iff {load : α → Except RunError β} {p : α → Prop} (h : ∀ x, Loads (load x) ↔ p x)
    (x : Option α) : Loads (loadOptional load x) ↔ ∀ y ∈ x, p y := by
  rcases x with _ | x
  · simp [loadOptional]
  · simp [loadOptional, h]

/-- A text is not blank if one of its characters is not. -/
lemma isBlankText_iff (s : String) : Text.isBlankText s = false ↔ HasText s := by
  simp [Text.isBlankText, HasText]

/-! ## Part by part -/

/-- A call loads if it names a function and its inputs compile. -/
lemma loadCall_iff (function : String) (inputs : List String) :
    Loads (loadCall function inputs) ↔ WellFormedCall function inputs := by
  have parts : WellFormedCall function inputs ↔
      HasText function ∧ ∀ source ∈ inputs, Compiles source :=
    ⟨fun h => ⟨h.named, h.inputs⟩, fun h => ⟨h.1, h.2⟩⟩
  rw [loadCall, parts, ← isBlankText_iff, ← compileAll_iff]
  cases Text.isBlankText function <;> simp

/-- A condition loads if its call is well-formed. -/
lemma Condition.loads_iff (c : Condition) : Loads c.load ↔ c.WellFormed :=
  (map_iff _ _).trans (loadCall_iff _ _)

lemma Task.loads_iff (t : Task) : Loads t.load ↔ t.WellFormed :=
  (map_iff _ _).trans (loadCall_iff _ _)

/-- A processor loads if its conditions and its tasks are well-formed. -/
lemma Processor.loads_iff (label : String) (p : Processor) : Loads (p.load label) ↔ p.WellFormed := by
  have parts : Loads (p.load label) ↔ _ ∧ _ := bind_iff fun gate => bind_pure_iff _ _
  rw [parts, loadAll_iff Condition.loads_iff, loadAll_iff Task.loads_iff]
  exact ⟨fun h => ⟨h.1, h.2⟩, fun h => ⟨h.conditions, h.pipeline⟩⟩

/-- A repetition loads if its stop conditions are well-formed and it comes to an end. -/
lemma Repetition.loads_iff (r : Repetition) : Loads r.load ↔ r.WellFormed := by
  have ends (gate : Gate) : Loads (if Text.lower (Text.trim r.kind) = "once" ∨
      !r.stopConditions.isEmpty then pure ⟨Text.lower (Text.trim r.kind), gate⟩
      else .error (.config (.noStopCondition (Text.lower (Text.trim r.kind)))) :
        Except RunError Connector.Repetition) ↔
      (Text.lower (Text.trim r.kind) = "once" ∨ r.stopConditions ≠ []) := by
    have some : (!r.stopConditions.isEmpty) = true ↔ r.stopConditions ≠ [] := by simp
    rw [← some]
    split_ifs with h
    · exact ⟨fun _ => h, fun _ => ⟨_, rfl⟩⟩
    · exact ⟨nofun, fun h' => absurd h' h⟩
  rw [Repetition.load, bind_iff ends, loadAll_iff Condition.loads_iff]
  exact ⟨fun h => ⟨h.1, h.2⟩, fun h => ⟨h.conditions, h.ends⟩⟩

/-- A checkpoint loads if it has content, and scope and content compile. -/
lemma Checkpoint.loads_iff (c : Checkpoint) : Loads c.load ↔ c.WellFormed := by
  rw [Checkpoint.load]
  split_ifs with none
  · exact ⟨nofun, fun h => absurd (List.isEmpty_iff.1 none) h.some⟩
  · have some : c.content.entries ≠ [] := by simpa using none
    rw [bind_iff (p := Loads (compileRecord c.content)) fun scope => bind_pure_iff _ _,
      compileAll_iff, compileRecord_iff]
    exact ⟨fun h => ⟨some, h.1, h.2⟩, fun h => ⟨h.scope, h.content⟩⟩

lemma present?_eq_some (s : Option String) (source : String) :
    present? s = some source ↔ s = some source ∧ source ≠ "" := by
  simp [present?, Option.filter_eq_some_iff]

/-- What is asked for is given if it is there, not empty, and compiles. -/
lemma given_iff {s : Option String} :
    Given s ↔ ∃ source, present? s = some source ∧ Compiles source := by
  simp only [present?_eq_some, Given, and_assoc]

/-- Credentials load if both texts are given. -/
lemma Credentials.loads_iff (c : Credentials) : Loads c.load ↔ c.WellFormed := by
  have both : c.WellFormed ↔ Given c.username ∧ Given c.password :=
    ⟨fun h => ⟨h.username, h.password⟩, fun h => ⟨h.1, h.2⟩⟩
  rw [both, given_iff, given_iff, Credentials.load]
  rcases present? c.username with _ | u
  · simp
  · rcases present? c.password with _ | p
    · simp
    · refine (bind_iff (p := Loads (compile p)) fun username => bind_pure_iff _ _).trans ?_
      rw [compile_iff, compile_iff]
      simp

/-- What a request sends loads if it has an address and all texts of it compile. -/
lemma Options.loads_iff (o : Options) : Loads o.load ↔ o.WellFormed := by
  have sent (credentials : Option Connector.Credentials) : Loads (
      if Text.isBlankText o.url then .error (.config .noUrl)
      else do
        let url ← compile o.url
        let headers ← compileRecord o.headers
        let body ← compileRecord o.body
        pure ⟨url, Text.upper (Text.trim o.method), headers.arrange [], body.arrange [],
          credentials⟩ :
        Except RunError Connector.Options) ↔
      HasText o.url ∧ Compiles o.url ∧ WellFormedRecord o.headers ∧ WellFormedRecord o.body := by
    rw [← isBlankText_iff, ← compile_iff, ← compileRecord_iff, ← compileRecord_iff]
    cases Text.isBlankText o.url with
    | true => simp
    | false =>
        rw [if_neg Bool.false_ne_true]
        refine (bind_iff (p := Loads (compileRecord o.headers) ∧ Loads (compileRecord o.body))
          fun url => bind_iff fun headers => bind_pure_iff _ _).trans ?_
        simp
  rw [Options.load, bind_iff sent, loadOptional_iff Credentials.loads_iff]
  exact ⟨fun ⟨c, a, u, h, b⟩ => ⟨a, u, h, b, c⟩,
    fun h => ⟨h.credentials, h.address, h.url, h.headers, h.body⟩⟩

/-- A loop loads if each of its parts is well-formed, whatever its name. -/
lemma Loop.loads_iff (name : String) (l : Loop) : Loads (l.load name) ↔ l.WellFormed := by
  have parts : Loads (l.load name) ↔ _ ∧ _ ∧ _ ∧ _ ∧ _ :=
    bind_iff fun options => bind_iff fun before => bind_iff fun after =>
      bind_iff fun repetition => bind_pure_iff _ _
  rw [parts, Options.loads_iff, Processor.loads_iff, Processor.loads_iff, Repetition.loads_iff,
    loadOptional_iff Checkpoint.loads_iff]
  exact ⟨fun ⟨o, b, a, r, c⟩ => ⟨o, b, a, r, c⟩,
    fun h => ⟨h.options, h.before, h.after, h.repetition, h.checkpoint⟩⟩

lemma Request.loads_iff (index : Nat) (r : Request) : Loads (r.load index) ↔ r.WellFormed :=
  Loop.loads_iff _ _

/-- A stage loads if what it does is well-formed. -/
lemma Stage.loads_iff (stage : Stage) : Loads stage.load ↔ stage.WellFormed := by
  cases stage with
  | http name loop => exact (map_iff _ _).trans (Loop.loads_iff _ _)
  | split name source delimiter output =>
      rw [Stage.load, Stage.WellFormed, ← compile_iff]
      by_cases noOutput : output = "" <;> by_cases noDelimiter : delimiter = some "" <;>
        simp [noOutput, noDelimiter]
  | process name p => exact (map_iff _ _).trans (Processor.loads_iff _ _)

/-- A job loads if all its stages are well-formed. -/
lemma Job.loads_iff (j : Job) : Loads j.load ↔ j.WellFormed := by
  rw [Job.load]
  split_ifs with none
  · exact ⟨nofun, fun h => absurd (List.isEmpty_iff.1 none) h.some⟩
  · have some : j.stages ≠ [] := by simpa using none
    rw [loadAll_iff Stage.loads_iff]
    exact ⟨fun h => ⟨some, h⟩, fun h => h.stages⟩

end Definition

/-! ## Whole definitions -/

namespace Engine

open Loads

/-- Requests load if all of them are well-formed, wherever they stand. -/
lemma loadRequests_iff (index : Nat) (requests : List Definition.Request) :
    Loads (loadRequests index requests) ↔ ∀ r ∈ requests, r.WellFormed := by
  induction requests generalizing index with
  | nil => simp [loadRequests]
  | cons r rest ih =>
      rw [loadRequests, List.forall_mem_cons, ← ih (index + 1), ← r.loads_iff index]
      rcases r.load index with e | request <;> simp

/-- Jobs load if all of them are well-formed. -/
lemma loadJobs_iff (jobs : List Definition.Job) :
    Loads (loadJobs jobs) ↔ ∀ j ∈ jobs, j.WellFormed := by
  induction jobs with
  | nil => simp [loadJobs]
  | cons j rest ih =>
      rw [loadJobs, List.forall_mem_cons, ← ih, ← j.loads_iff]
      rcases j.load with e | stages <;> simp

end Engine

variable {d : Definition} {context : Context}

/-- With something to run and a known level, a load goes on with the requests and the jobs. -/
lemma Engine.load_parts (work : d.HasWork) {level : LogLevel}
    (known : LogLevel.ofText? d.settings.logging.level = some level) :
    load d context = (loadRequests 0 d.requests >>= fun requests =>
      loadJobs d.jobs >>= fun jobs =>
        pure ⟨requests, jobs, level, (d.settings.proxy.filter (·.enabled)).map proxyOf, context⟩) := by
  have some : (d.requests.isEmpty && d.jobs.isEmpty) = false := by
    rcases work with h | h <;> simp [h]
  simp only [load, some, known, Bool.false_eq_true, if_false]

/-- **A definition loads exactly if it is well-formed.** -/
theorem Engine.loads_iff (d : Definition) (context : Context) :
    Loads (load d context) ↔ d.WellFormed := by
  by_cases work : d.HasWork
  · rcases known : LogLevel.ofText? d.settings.logging.level with _ | level
    · have fails : ¬ Loads (load d context) := by
        rw [load, known]
        split_ifs <;> simp
      have unknown : ¬ d.HasLevel := fun ⟨level, h⟩ => nomatch known.symm.trans h
      exact ⟨fun h => absurd h fails, fun h => absurd h.level unknown⟩
    · rw [load_parts work known,
        Loads.bind_iff (p := Loads (loadJobs d.jobs)) fun requests => Loads.bind_pure_iff _ _,
        loadRequests_iff, loadJobs_iff]
      exact ⟨fun h => ⟨work, ⟨level, known⟩, h.1, h.2⟩, fun h => ⟨h.requests, h.jobs⟩⟩
  · have nothing : d.requests = [] ∧ d.jobs = [] := by simpa [Definition.HasWork] using work
    have fails : ¬ Loads (load d context) := by simp [load, nothing]
    exact ⟨fun h => absurd h fails, fun h => absurd h.work work⟩

/-! ## What the error names

What stands before the first ill-formed part loads, so the load comes to that part and ends there. -/

/-- The first request that is ill-formed is the one that the error names. -/
lemma Engine.loadRequests_error {before : List Definition.Request} {bad : Definition.Request}
    (good : ∀ r ∈ before, r.WellFormed) (ill : ¬ bad.WellFormed) (after : List Definition.Request)
    (index : Nat) :
    ∃ e, bad.load (index + before.length) = .error e ∧ loadRequests index (before ++ bad :: after) =
      .error (.load (bad.effectiveName (index + before.length)) e) := by
  induction before generalizing index with
  | nil =>
      obtain ⟨e, he⟩ := Loads.exists_error ((bad.loads_iff index).not.2 ill)
      exact ⟨e, he, by simp [loadRequests, he]⟩
  | cons r rest ih =>
      obtain ⟨first, later⟩ := List.forall_mem_cons.1 good
      obtain ⟨request, hr⟩ := (r.loads_iff index).2 first
      obtain ⟨e, he, hl⟩ := ih later (index + 1)
      have place : index + 1 + rest.length = index + (r :: rest).length := by
        rw [List.length_cons]
        omega
      rw [place] at he hl
      refine ⟨e, he, ?_⟩
      rw [List.cons_append, loadRequests, hr]
      simp only [hl, Except.map]

/-- The first job that is ill-formed is the one that the error names. -/
lemma Engine.loadJobs_error {before : List Definition.Job} {bad : Definition.Job}
    (good : ∀ j ∈ before, j.WellFormed) (ill : ¬ bad.WellFormed) (after : List Definition.Job) :
    ∃ e, bad.load = .error e ∧
      loadJobs (before ++ bad :: after) = .error (.load bad.name e) := by
  induction before with
  | nil =>
      obtain ⟨e, he⟩ := Loads.exists_error (bad.loads_iff.not.2 ill)
      exact ⟨e, he, by simp [loadJobs, he]⟩
  | cons j rest ih =>
      obtain ⟨first, later⟩ := List.forall_mem_cons.1 good
      obtain ⟨stages, hj⟩ := j.loads_iff.2 first
      obtain ⟨e, he, hl⟩ := ih later
      refine ⟨e, he, ?_⟩
      rw [List.cons_append, loadJobs, hj]
      simp only [hl, Except.map]

/-- **The first ill-formed request is named.** -/
theorem Engine.load_request_error (work : d.HasWork) (known : d.HasLevel)
    {before after : List Definition.Request} {bad : Definition.Request}
    (split : d.requests = before ++ bad :: after) (good : ∀ r ∈ before, r.WellFormed)
    (ill : ¬ bad.WellFormed) :
    ∃ e, bad.load before.length = .error e ∧
      load d context = .error (.load (bad.effectiveName before.length) e) := by
  obtain ⟨level, known⟩ := known
  obtain ⟨e, he, hl⟩ := loadRequests_error good ill after 0
  rw [Nat.zero_add] at he hl
  refine ⟨e, he, ?_⟩
  rw [load_parts work known, split, hl]
  rfl

/-- **The first ill-formed job is named** where all requests are well-formed. -/
theorem Engine.load_job_error (work : d.HasWork) (known : d.HasLevel)
    (requests : ∀ r ∈ d.requests, r.WellFormed) {before after : List Definition.Job}
    {bad : Definition.Job} (split : d.jobs = before ++ bad :: after)
    (good : ∀ j ∈ before, j.WellFormed) (ill : ¬ bad.WellFormed) :
    ∃ e, bad.load = .error e ∧ load d context = .error (.load bad.name e) := by
  obtain ⟨level, known⟩ := known
  obtain ⟨loaded, hr⟩ := (loadRequests_iff 0 d.requests).2 requests
  obtain ⟨e, he, hl⟩ := loadJobs_error good ill after
  refine ⟨e, he, ?_⟩
  rw [load_parts work known, hr, split, hl]
  rfl

end Connector
