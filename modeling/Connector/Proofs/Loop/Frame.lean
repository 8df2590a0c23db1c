import Connector.Proofs.Loop.Snapshots
import Connector.Proofs.Processor

/-!
# What a loop leaves alone

A loop changes its context in four places: the stored checkpoint is laid over it, the response is put
in, and two processors bind the outputs of their tasks.  Every other name keeps its value from the
first context to the last, and what a loop leaves when it ends without a page differs from the last
page in what the first processor binds only.

* `Loop.Binds` — the names that rounds bind.
* `Loop.get?_of_produces`, `Loop.eq_of_round_ended` — one round, by how it ends.
* `Loop.Framed`, `Loop.finish_framed` — all rounds that are left.
* `RequestJob.found` — what is found in the store when a job starts.
* **`RequestJob.run_frame`** — a whole job.
-/

namespace Connector

open Work Work.Leaves

lemma Record.get?_overlay_of_not_mem {α : Type} {name : String} {upper : Record α}
    (h : name ∉ names upper) (lower : Record α) :
    get? name (overlay lower upper) = get? name lower := by
  induction upper generalizing lower with
  | nil => rfl
  | cons entry rest ih =>
      obtain ⟨k, v⟩ := entry
      simp only [names, List.map_cons, List.mem_cons, not_or] at h
      rw [overlay, ih h.2, get?_insert, if_neg (Ne.symm h.1)]

namespace Loop

variable {l : Loop} {c c' : Context} {w u : World} {i : Nat} {answer : Option Answer}

/-- **The names that a round binds**: the one of the response and the outputs of both
processors. -/
def Binds (l : Loop) (name : String) : Prop :=
  name = responseKey ∨ name ∈ l.request.before.outputNames ∨ name ∈ l.request.after.outputNames

/-! ## One round -/

/-- A round with a page changes nothing but what it binds. -/
lemma get?_of_produces {functions : Registry} (h : l.Produces functions c c') {name : String}
    (hn : ¬ l.Binds name) : Record.get? name c' = Record.get? name c := by
  simp only [Binds, not_or] at hn
  obtain ⟨response, rfl⟩ := h
  rw [Processor.get?_run hn.2.2, Record.get?_insert, if_neg (Ne.symm hn.1),
    Processor.get?_run hn.2.1]

lemma eq_of_receive_ended {answer : Answer} {outcome : LoopOutcome}
    (h : l.receive i answer c w = (.ok (.ended outcome c'), u)) : c' = c := by
  cases answer with
  | silence => cases h
  | refusal e =>
      simp only [receive] at h
      split_ifs at h <;> cases h
      rfl
  | response r =>
      simp only [receive] at h
      split_ifs at h
      · cases h
        rfl
      · obtain ⟨x, v, -, done⟩ := exists_of_bind_apply h
        cases done

/-- **A round without a page** leaves what the first processor has made of the context, whether it
was stopped or its response was rejected. -/
lemma eq_of_round_ended {outcome : LoopOutcome}
    (h : l.round i answer c w = (.ok (.ended outcome c'), u)) :
    c' = (l.request.before.run w.functions c).context := by
  rw [round_eq] at h
  obtain ⟨x, v, hr, h⟩ := exists_of_bind_apply h
  rw [bind_ok (checkStop_apply _ _)] at h
  split_ifs at h
  · cases h
    exact ready_ok hr
  · obtain ⟨answer, v', -, received⟩ := exists_of_bind_apply h
    rw [eq_of_receive_ended received]
    exact ready_ok hr

/-! ## All rounds -/

/-- **What the result of rounds from a context on leaves alone.** -/
structure Framed (l : Loop) (c : Context) (r : LoopResult) : Prop where
  pages {page : Context} : page ∈ r.pages → ∀ {name : String}, ¬ l.Binds name →
    Record.get? name page = Record.get? name c
  context {name : String} : ¬ l.Binds name → Record.get? name r.context = Record.get? name c
  /-- What is left without a page is the last page but for the outputs of the first processor. -/
  left : r.outcome ≠ .stopConditionMet → ∀ {name : String},
    name ∉ l.request.before.outputNames →
      Record.get? name r.context = Record.get? name (r.pages.getLast?.getD c)

lemma framed_of_ended {outcome : LoopOutcome}
    (h : l.round i answer c w = (.ok (.ended outcome c'), u)) :
    l.Framed c ⟨outcome, c', []⟩ := by
  obtain rfl := eq_of_round_ended h
  refine ⟨nofun, ?_, ?_⟩
  · intro name hn
    simp only [Binds, not_or] at hn
    exact Processor.get?_run hn.2.1 c
  · intro _ name hn
    exact Processor.get?_run hn c

lemma framed_of_last {last : Bool} (h : l.round i answer c w = (.ok (.page c' last), u)) :
    l.Framed c ⟨.stopConditionMet, c', [c']⟩ := by
  obtain ⟨produces, -⟩ := round_produces h
  refine ⟨?_, fun hn => get?_of_produces produces hn, fun other => absurd rfl other⟩
  intro page hp name hn
  obtain rfl := List.mem_singleton.1 hp
  exact get?_of_produces produces hn

/-- A page in front of the others: what the rounds behind it leave alone, they leave as it is on
that page. -/
lemma Framed.withPage {r : LoopResult} (h : l.round i answer c w = (.ok (.page c' false), u))
    (hr : l.Framed c' r) : l.Framed c (r.withPage c') := by
  obtain ⟨produces, -⟩ := round_produces h
  refine ⟨?_, fun hn => (hr.context hn).trans (get?_of_produces produces hn), ?_⟩
  · intro page hp name hn
    rcases List.mem_cons.1 hp with rfl | hp
    · exact get?_of_produces produces hn
    · exact (hr.pages hp hn).trans (get?_of_produces produces hn)
  · intro other name hn
    rw [LoopResult.withPage, List.getLast?_cons]
    exact hr.left other hn

/-- **All rounds that are left**, by recursion on the answers still to come. -/
theorem finish_framed (l : Loop) (answers : List Answer) (n : Nat) (c : Context) (w : World)
    {r : LoopResult} {u : World} (h : l.finish ⟨n, answers, c, w⟩ = (.ok r, u)) :
    l.Framed c r := by
  induction answers generalizing n c w r with
  | nil =>
      rcases hr : l.round (n + 1) none c w with ⟨e | ⟨outcome, c'⟩ | ⟨c', last⟩, v⟩
      · have hf : l.finish ⟨n, [], c, w⟩ = (.error e, v) := finish_of_error hr
        cases h.symm.trans hf
      · have hf : l.finish ⟨n, [], c, w⟩ = (.ok ⟨outcome, c', []⟩, v) := finish_of_ended hr
        cases h.symm.trans hf
        exact framed_of_ended hr
      · have hf : l.finish ⟨n, [], c, w⟩ = (.ok ⟨.stopConditionMet, c', [c']⟩, v) :=
          finish_of_last hr (.inl rfl)
        cases h.symm.trans hf
        exact framed_of_last hr
  | cons answer rest ih =>
      rcases hr : l.round (n + 1) (some answer) c w with
        ⟨e | ⟨outcome, c'⟩ | ⟨c', _ | _⟩, v⟩
      · have hf : l.finish ⟨n, answer :: rest, c, w⟩ = (.error e, v) := finish_of_error hr
        cases h.symm.trans hf
      · have hf : l.finish ⟨n, answer :: rest, c, w⟩ = (.ok ⟨outcome, c', []⟩, v) :=
          finish_of_ended hr
        cases h.symm.trans hf
        exact framed_of_ended hr
      · rw [finish_of_step (.intro hr)] at h
        rcases hf : l.finish ⟨n + 1, rest, c', v.display l.token .repeating⟩ with ⟨e | s, v'⟩
        · rw [hf] at h
          cases h
        · rw [hf] at h
          cases h
          exact (ih _ _ _ hf).withPage hr
      · have hf : l.finish ⟨n, answer :: rest, c, w⟩ =
            (.ok ⟨.stopConditionMet, c', [c']⟩, v) := finish_of_last hr (.inr rfl)
        cases h.symm.trans hf
        exact framed_of_last hr

end Loop

/-! ## A whole job -/

namespace RequestJob

variable {j : RequestJob} {w u : World}

/-- **What is found in the store when a job starts**: nothing where the job is stopped before. -/
def found (j : RequestJob) (w : World) : Context :=
  if (j.begun w).isStopRequested j.token then []
  else (j.toLoop.stored j.context w).getD []

lemma pages_begun (j : RequestJob) (w : World) : (j.begun w).pages = w.pages := by
  simp [begun, World.pages, World.tell, World.look, Event.page?]

/-- What a loop that does not fail leaves alone and what it has told, if there is a loop. -/
lemma exists_framed {report : JobReport} (h : j.run w = (.ok report, u)) :
    ∃ r : LoopResult, j.toLoop.Framed (Record.overlay j.context (j.found w)) r ∧
      report.outcome = r.outcome ∧ report.context = r.context ∧
      u.pages = w.pages ++ r.pages.map .obj := by
  by_cases hs : (j.begun w).isStopRequested j.token = true
  · have found : j.found w = [] := by rw [RequestJob.found, hs, if_pos rfl]
    have told := j.pages_close (.ok ⟨.cancelled, j.context, []⟩, j.begun w)
    rw [run_of_stopped hs] at h
    rw [h, pages_begun] at told
    cases h
    refine ⟨⟨.cancelled, j.context, []⟩, ?_, rfl, rfl, by simpa using told⟩
    rw [found]
    exact ⟨nofun, fun _ => rfl, fun _ _ _ => rfl⟩
  · have running : (j.begun w).isStopRequested j.token = false := by simpa using hs
    have found : Record.overlay j.context (j.found w) = j.toLoop.start j.context w := by
      rw [RequestJob.found, running]
      rfl
    have told := j.pages_close (j.toLoop.run j.context (j.begun w))
    rw [run_of_running running] at h
    rw [h] at told
    rcases hr : j.toLoop.run j.context (j.begun w) with ⟨e | r, v⟩
    · rw [hr] at h
      cases e <;> cases h
    · obtain ⟨t, ht, pages⟩ := Loop.run_told j.toLoop j.context (j.begun w)
      rw [hr] at h told ht pages
      rw [World.pages_of_trail ht, pages_begun, pages.1] at told
      cases h
      refine ⟨r, ?_, rfl, rfl, told⟩
      rcases hc : j.toLoop.resumed j.context (j.begun w) with e | c
      · rw [Loop.run_of_resumed_error hc] at hr
        cases hr
      · have started : c = j.toLoop.start j.context w := Loop.eq_start_of_resumed hc
        rw [Loop.run_of_resumed hc] at hr
        rw [found, ← started]
        exact Loop.finish_framed _ _ _ _ _ hr

/-- **What a request job leaves alone.**  In every context that a job tells of, and in the one that
it leaves, a name has its first value unless it is the one of the response, was found in the store, or
is bound by a task.  A job that ends without a page, because it was stopped or its last response was
rejected, leaves the last context told of (or the one that it started from) but for the outputs of the
first processor; so a rejected response is not kept. -/
theorem run_frame {report : JobReport} (h : j.run w = (.ok report, u)) :
    ∃ pages : List Context, u.pages = w.pages ++ pages.map .obj ∧
      (∀ c ∈ pages ++ [report.context], ∀ name : String, name ≠ responseKey →
        name ∉ Record.names (j.found w) → name ∉ j.request.before.outputNames →
        name ∉ j.request.after.outputNames → Record.get? name c = Record.get? name j.context) ∧
      (report.outcome ≠ .stopConditionMet → ∀ name ∉ j.request.before.outputNames,
        Record.get? name report.context =
          Record.get? name (pages.getLast?.getD (Record.overlay j.context (j.found w)))) := by
  obtain ⟨r, framed, outcome, context, told⟩ := exists_framed h
  refine ⟨r.pages, told, ?_, ?_⟩
  · intro c hc name response stored before after
    have unwritten : ¬ j.toLoop.Binds name := by
      rintro (h | h | h)
      · exact response h
      · exact before h
      · exact after h
    have first := Record.get?_overlay_of_not_mem stored j.context
    rcases List.mem_append.1 hc with page | last
    · exact (framed.pages page unwritten).trans first
    · obtain rfl := List.mem_singleton.1 last
      rw [context]
      exact (framed.context unwritten).trans first
  · intro ended name hn
    rw [context]
    exact framed.left (outcome ▸ ended) hn

theorem run_frame_items :
    ∃ report u, RequestJob.run ⟨itemsRequest, [("base", .str "x")], [0]⟩ itemsWorld =
        (.ok report, u) ∧ report.outcome = .emptyBody ∧
      ∃ pages : List Context, u.pages = itemsWorld.pages ++ pages.map .obj ∧
        (∀ c ∈ pages ++ [report.context], ∀ name : String, name ≠ responseKey →
          name ∉ Record.names (RequestJob.found ⟨itemsRequest, [("base", .str "x")], [0]⟩ itemsWorld) →
          name ∉ itemsRequest.before.outputNames → name ∉ itemsRequest.after.outputNames →
          Record.get? name c = Record.get? name [("base", Json.str "x")]) ∧
        (report.outcome ≠ .stopConditionMet → ∀ name ∉ itemsRequest.before.outputNames,
          Record.get? name report.context =
            Record.get? name (pages.getLast?.getD (Record.overlay [("base", .str "x")]
              (RequestJob.found ⟨itemsRequest, [("base", .str "x")], [0]⟩ itemsWorld)))) :=
  ⟨_, _, rfl, rfl, run_frame (j := ⟨itemsRequest, [("base", .str "x")], [0]⟩) rfl⟩

end RequestJob

end Connector
