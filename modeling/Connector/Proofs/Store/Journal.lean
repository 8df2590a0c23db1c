import Connector.Proofs.Engine.Course

/-!
# The events as a journal of the store

A checkpoint is written and told of in one go, right before the response is told of that it was
rendered after.  So the events of a run tell all that has become of the store, whatever ends the
run, and in whatever layer.

* `Store.replay` — what the events of a run make of a store; `Store.get?_replay` — entry by entry.
* `Faithful` — every event of a write is followed by that of its response, in whose context the
  templates of the checkpoint come to what was written.
* `Request.digests_journal` — what comes after a response keeps the journal.
* **`journal_run`** — the journals of loops, of scheduler runs and of engine runs.
-/

namespace Connector

open Work

/-! ## Replaying events -/

namespace Store

/-- **What an event makes of a store**: an event of a write replaces the entry of its namespace. -/
def noting (s : Store) : Event → Store
  | .checkpointWritten _ scope (.obj content) =>
    { s with entries := Record.insert (namespaceKey scope) content s.entries }
  | _ => s

/-- **What events make of a store**, in order. -/
def replay (log : List Event) (s : Store) : Store := log.foldl noting s

/-- What is written is noted. -/
lemma noting_of_set {s kept : Store} {scope : List String} {content : Context} {outage : Outage}
    (h : s.set scope content outage = .ok kept) (job : String) :
    s.noting (.checkpointWritten job scope (.obj content)) = kept := by
  rw [set] at h
  split at h
  · cases h
  · exact Except.ok.inj h

/-- What an event writes under a key. -/
def written? (key : String) : Event → Option Context
  | .checkpointWritten _ scope (.obj content) =>
    if namespaceKey scope = key then some content else none
  | _ => none

/-- What is under a name after one event: what the event wrote there, or what was there before. -/
lemma get?_noting (key : String) (s : Store) (e : Event) :
    Record.get? key (s.noting e).entries = (written? key e).or (Record.get? key s.entries) := by
  unfold noting written?
  split
  · rw [Record.get?_insert]
    split_ifs <;> rfl
  · rfl

/-- **An entry is what was last written to it**, or what it was before. -/
theorem get?_replay (key : String) (log : List Event) (s : Store) :
    Record.get? key (s.replay log).entries =
      (log.reverse.findSome? (written? key)).or (Record.get? key s.entries) := by
  induction log generalizing s with
  | nil => rfl
  | cons e log ih =>
      have first : s.replay (e :: log) = (s.noting e).replay log := rfl
      rw [first, ih, get?_noting, List.reverse_cons, List.findSome?_append, Option.or_assoc,
        List.findSome?_cons]
      cases written? key e <;> rfl

@[simp] lemma replay_append (log more : List Event) (s : Store) :
    s.replay (log ++ more) = (s.replay log).replay more :=
  List.foldl_append

end Store

/-! ## Journals -/

/-- Whether an event is that of a write. -/
def Event.isWrite : Event → Bool
  | .checkpointWritten _ _ _ => true
  | _ => false

/-- **The event of a write and the one after it**: that of the response, whose context gives the
namespace and the content of the checkpoint. -/
inductive Checkpointed (requests : List Request) : Event → Event → Prop where
  | intro {request : Request} {checkpoint : Checkpoint} {scope : List String}
      {content context : Context} (n : Nat) (hr : request ∈ requests)
      (hc : request.checkpoint = some checkpoint)
      (hs : checkpoint.renderScope context = .ok scope)
      (hw : checkpoint.renderContent context = .ok content) :
      Checkpointed requests (.checkpointWritten request.name scope (.obj content))
        (.iterationCompleted request.name n (.obj context))

/-- **Faithful events**: every event of a write is followed by that of its response. -/
def Faithful (requests : List Request) (log : List Event) : Prop :=
  ∀ i e, log[i]? = some e → e.isWrite →
    ∃ next, log[i + 1]? = some next ∧ Checkpointed requests e next

namespace Faithful

variable {requests : List Request} {log more : List Event}

lemma append (h : Faithful requests log) (hm : Faithful requests more) :
    Faithful requests (log ++ more) := by
  intro i e he hw
  rcases Nat.lt_or_ge i log.length with hi | hi
  · rw [List.getElem?_append_left hi] at he
    obtain ⟨next, hn, checkpointed⟩ := h i e he hw
    have inside : i + 1 < log.length := (List.getElem?_eq_some_iff.1 hn).1
    exact ⟨next, by rw [List.getElem?_append_left inside, hn], checkpointed⟩
  · rw [List.getElem?_append_right hi] at he
    obtain ⟨next, hn, checkpointed⟩ := hm _ e he hw
    refine ⟨next, ?_, checkpointed⟩
    rw [List.getElem?_append_right (Nat.le_succ_of_le hi), Nat.succ_sub hi, hn]

/-- An event that is no write is faithful by itself. -/
lemma singleton {e : Event} (h : e.isWrite = false) : Faithful requests [e] := by
  rintro (_ | i) e' he hw
  · cases he
    exact absurd (h.symm.trans hw) Bool.false_ne_true
  · cases he

/-- A write is faithful together with the page behind it. -/
lemma pair {e next : Event} (h : Checkpointed requests e next) : Faithful requests [e, next] := by
  have last : next.isWrite = false := by cases h; rfl
  rintro (_ | i) e' he hw
  · cases he
    exact ⟨next, rfl, h⟩
  · exact singleton last i e' he hw

end Faithful

/-- **What a run has told is a journal of the store**, as far as the requests that it may send are
concerned: replaying the events gives the store, and the events are faithful. -/
structure Journal (requests : List Request) (w u : World) (log : List Event) : Prop where
  told : u.events = w.events ++ log
  store : u.store = w.store.map (Store.replay log)
  /-- Every entry is what was last written to it, or what it was before. -/
  entries : ∀ before after, w.store = some before → u.store = some after → ∀ key,
    Record.get? key after.entries =
      (log.reverse.findSome? (Store.written? key)).or (Record.get? key before.entries)
  faithful : Faithful requests log

/-- What a journal asks of the events and of the store since a run began. -/
def Kept (requests : List Request) (w : World) (log : List Event) (store : Option Store) : Prop :=
  store = w.store.map (Store.replay log) ∧ Faithful requests log

section Kept

variable {requests : List Request} {w₀ w u : World}

/-- What is kept since a run began is the journal of its log. -/
lemma Since.journal (h : Since w₀ (Kept requests w₀) w) :
    ∃ log, Journal requests w₀ w log := by
  obtain ⟨t, ht, store, faithful⟩ := h
  refine ⟨t.events, congrArg Trail.events ht, store, fun before after hb ha key => ?_, faithful⟩
  rw [hb, ha] at store
  obtain rfl : after = before.replay t.events := Option.some.inj store
  exact Store.get?_replay key t.events before

lemma Since.kept : Since w₀ (Kept requests w₀) w₀ :=
  .refl ⟨by cases w₀.store <;> rfl, nofun⟩

/-- All steps but writes keep a journal. -/
lemma harmony_kept (requests : List Request) (w₀ : World) :
    Harmony (Same (Since w₀ (Kept requests w₀))) (fun e => e.isWrite = false) fun _ => True := by
  refine harmony_since w₀ ?_ fun _ _ => rfl
  rintro e log _ he ⟨rfl, faithful⟩
  refine ⟨?_, faithful.append (.singleton he)⟩
  have same : Store.replay (log ++ [e]) = Store.replay log := by
    funext s
    rw [Store.replay_append]
    cases e <;> first | rfl | cases he
  rw [same]

/-- **How a checkpoint is written**: there is none, or it fails, or it is written and told of. -/
inductive Loop.Writes (l : Loop) (c : Context) (w : World) : Except Halt Unit × World → Prop where
  | none : Writes l c w (.ok (), w)
  | failed (e : RunError) : Writes l c w (.error (.failed e), w)
  | written {checkpoint : Checkpoint} {scope : List String} {content : Context}
      (hc : l.request.checkpoint = some checkpoint) (hs : checkpoint.renderScope c = .ok scope)
      (hw : checkpoint.renderContent c = .ok content) {store : Option Store}
      (hk : store = w.store.map (·.noting (.checkpointWritten l.job scope (.obj content)))) :
      Writes l c w
        (.ok (), { w with store := store }.tell (.checkpointWritten l.job scope (.obj content)))

/-- A checkpoint is written to the store and then told of, as it was rendered. -/
lemma Loop.writeCheckpoint_writes (l : Loop) (c : Context) (w : World) :
    l.Writes c w (l.writeCheckpoint c w) := by
  rcases hc : l.request.checkpoint with _ | checkpoint
  · simp only [writeCheckpoint, hc]
    exact .none
  · rcases hs : checkpoint.renderScope c with e | scope
    · simp only [writeCheckpoint, hc, hs]
      exact .failed e
    · rcases hw : checkpoint.renderContent c with e | content
      · simp only [writeCheckpoint, hc, hs, hw]
        exact .failed e
      · simp only [writeCheckpoint, hc, hs, hw, attempt_ok, pure_bind]
        rw [bind_ok (get_apply w)]
        rcases hst : w.store with _ | store
        · have noted : Option.none = w.store.map
              (·.noting (.checkpointWritten l.job scope (.obj content))) := by rw [hst]; rfl
          have same : { w with store := Option.none } = w := by rw [← hst]
          have written := Writes.written hc hs hw noted
          rwa [same] at written
        · rcases hset : store.set scope content (w.outages 0) with e | kept
          · simp only [hset]
            exact .failed (.store e)
          · simp only [hset]
            refine .written hc hs hw ?_
            rw [hst, Option.map_some, Store.noting_of_set hset]

/-- **What comes after a response keeps the journal.**  The checkpoint is written, told of and
followed by its response in one go, or not written at all. -/
theorem Request.digests_journal (w₀ : World) {request : Request} (hr : request ∈ requests) :
    request.Digests (Same (Since w₀ (Kept requests w₀))) := by
  intro token i r context
  have hR := harmony_kept requests w₀
  have written (c : Context) : Steady (Same (Since w₀ (Kept requests w₀))) (do
      Loop.writeCheckpoint ⟨request.name, request, token⟩ c
      emit (.iterationCompleted request.name i (.obj c))) := by
    refine steady_same fun w hw => ?_
    have writes := Loop.writeCheckpoint_writes ⟨request.name, request, token⟩ c w
    rw [bind_apply]
    generalize Loop.writeCheckpoint ⟨request.name, request, token⟩ c w = out at writes
    cases writes with
    | none => exact (hR.tell rfl ⟨rfl, hw⟩).2
    | failed e => exact hw
    | @written checkpoint scope content hc hs hk store hst =>
        have pair := Checkpointed.intro i hr hc hs hk
        refine hw.step (t := { events := [.checkpointWritten request.name scope (.obj content),
          .iterationCompleted request.name i (.obj c)] }) ?_ ?_
        · dsimp only
          rw [emit_apply, World.trail_tell, World.trail_tell, Trail.append_assoc]
          rfl
        · rintro log ⟨stored, faithful⟩
          refine ⟨?_, faithful.append (.pair pair)⟩
          show store = _
          rw [hst, stored, Option.map_map]
          refine congrArg (Option.map · w₀.store) (funext fun s => ?_)
          rw [Store.replay_append]
          rfl
  refine Steady.bind (hR.publish _ _) fun _ => Steady.bind (hR.process _ _ _) fun c => ?_
  rw [← bind_assoc]
  refine Steady.bind (written c) fun _ => ?_
  refine Steady.get_bind (fun w u hr => by rw [hR.functions hr]) fun w => ?_
  exact Steady.bind (hR.say _) fun _ => Steady.bind (Steady.attempt _) fun _ => Steady.pure _

end Kept

/-! ## Runs -/

namespace Engine

/-- **The requests that an engine may send**: its own, and those of its jobs. -/
def allRequests (e : Engine) : List Request :=
  e.requests ++ e.jobs.flatMap fun job => Stage.requests job.stages

section Keeps

variable {P : World → Prop} {E : Event → Prop} (hR : Harmony (Same P) E fun _ => True)
  (he : ∀ e : Event, e.isJobLevel → E e)

include hR he

lemma runRequests_keeps (stop run : Token) (index : Nat) (requests : List Request)
    (hd : ∀ request ∈ requests, request.Digests (Same P)) (context : Context) :
    Steady (Same P) (runRequests stop run index requests context) := by
  induction requests generalizing index context with
  | nil => exact Steady.pure _
  | cons request rest ih =>
      have later := ih (index + 1) fun r hr => hd r (List.mem_cons_of_mem _ hr)
      have here : request.Digests (Same P) := hd request (List.mem_cons_self ..)
      refine Steady.bind (hR.checkStop trivial) fun stopped => ?_
      cases stopped with
      | true => exact Steady.pure _
      | false =>
          have job : Steady (Same P) (RequestJob.run ⟨request, context, run.child index⟩) :=
            Harmony.requestJob_run he hR here trivial
          refine Steady.bind job.settle fun result => ?_
          rcases result with e | report
          · exact Steady.pure _
          · refine Steady.bind (later report.context) fun rest => ?_
            rcases rest with e | rest <;> exact Steady.pure _

/-- **What every step of the jobs keeps, the run of an engine keeps.** -/
theorem run_keeps (e : Engine) (stop run : Token)
    (hd : ∀ request ∈ e.allRequests, request.Digests (Same P)) :
    Steady (Same P) (e.run stop run) := by
  have jobs (context : Context) : Steady (Same P) (e.runJobs stop run context) := by
    refine steady_same fun w hw => ?_
    refine WorksOff.keeps hR he ((Scheduler.run_worksOff _ _ w _).2 rfl) (fun request hr => ?_) hw
    obtain ⟨j, hj, hr⟩ := List.mem_flatMap.1 hr
    rw [Option.toList_none, List.append_nil] at hj
    obtain ⟨job, hm, i, rfl⟩ := of_mem_forkingJobs hj
    exact hd request (List.mem_append_right _ (List.mem_flatMap.2 ⟨job, hm, hr⟩))
  have requests := runRequests_keeps hR he stop run 1 e.requests
    (fun request hr => hd request (List.mem_append_left _ hr)) e.context
  have looks : Steady (Same P) (checkStop stop) := hR.checkStop trivial
  refine Steady.bind requests fun result => ?_
  rcases result with error | requests
  · exact Steady.pure _
  · dsimp only
    split_ifs
    · exact Steady.pure _
    · exact Steady.bind looks fun _ => Steady.pure _
    · refine Steady.bind looks fun stopped => ?_
      cases stopped with
      | true => exact Steady.pure _
      | false =>
          refine Steady.bind (jobs _) fun report => ?_
          exact Steady.bind looks fun _ => Steady.pure _

end Keeps

end Engine

/-- **The events are a journal of the store.**  Of a loop, of a scheduler run and of an engine run,
in any world — with any answers and functions, with stops and cancellations at any moment, with any
store or none, also one that fails, and whether the run comes to an end or waits for ever. -/
theorem journal_run :
    (∀ (request : Request) (token : Token) (context : Context) (w : World), ∃ log,
      Journal [request] w (Loop.run ⟨request.name, request, token⟩ context w).2 log) ∧
    (∀ (s : Scheduler) (roots : List ForkingJob) (w : World), ∃ log,
      Journal (s.requests roots) w (s.run roots w).2 log) ∧
    ∀ (e : Engine) (stop run : Token) (w : World), ∃ log,
      Journal e.allRequests w (e.run stop run w).2 log := by
  have inner (e : Event) (h : e.isJobLevel) : e.isWrite = false := by
    cases e <;> first | rfl | cases h
  refine ⟨fun request token context w => ?_, fun s roots w => ?_, fun e stop run w => ?_⟩
  · have digests := Request.digests_journal w (List.mem_singleton_self request)
    have loop := Harmony.loop_run (digests token) (harmony_kept [request] w) trivial context
    exact (loop.keeps .kept).journal
  · have turns := (s.run_worksOff roots w _).2 rfl
    exact (turns.keeps (harmony_kept _ w) inner (fun _ => Request.digests_journal w) .kept).journal
  · have keeps := e.run_keeps (harmony_kept _ w) inner stop run fun _ => Request.digests_journal w
    exact (keeps.keeps .kept).journal

end Connector
