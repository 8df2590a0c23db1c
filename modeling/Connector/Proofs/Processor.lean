import Connector.Proofs.Context
import Mathlib.Data.List.Induction

/-!
# What a processor comes to

A gate is decided from left to right and tasks run from left to right, so that at every place what
is known of the places before it is enough to say what happens there.

* `Gate.Decided` — how a gate is decided; `Gate.passes_iff`.
* `Task.outputs`, `Task.Succeed` — what tasks bind, and tasks each of which has its reply in the
  context under the outputs of those before it.
* `Processor.ComesTo` — skipped, refused by its gate, run to the end, or broken off at a task;
  `Processor.run_iff`.
* `Processor.Result.andThen` — one pipeline behind another; `Processor.run_append`.
* **`Processor.run_in_order`** — all of it in one statement.
* `Processor.get?_run` — a processor leaves every name alone that none of its tasks binds.
-/

namespace Connector

namespace Record

variable {α : Type} {k l : String}

/-! How an entry comes in, by where its name stands to the first one. -/

/-- An entry that comes first is inserted in front. -/
lemma insert_cons_of_lt (h : k < l) (v w : α) (r : Record α) :
    insert k v ((l, w) :: r) = (k, v) :: (l, w) :: r :=
  if_pos h

/-- An entry of the first name takes its place. -/
lemma insert_cons_self (k : String) (v w : α) (r : Record α) :
    insert k v ((k, w) :: r) = (k, v) :: r := by
  rw [insert, if_neg (String.lt_irrefl k), if_pos rfl]

/-- An entry that comes later is inserted behind the first. -/
lemma insert_cons_of_ne (hlt : ¬ k < l) (hne : l ≠ k) (v w : α) (r : Record α) :
    insert k v ((l, w) :: r) = (l, w) :: insert k v r := by
  rw [insert, if_neg hlt, if_neg hne]

/-- Of two entries of one name the later one stays. -/
lemma insert_insert (k : String) (v w : α) (r : Record α) :
    insert k v (insert k w r) = insert k v r := by
  induction r with
  | nil => exact insert_cons_self k v w []
  | cons entry rest ih =>
      obtain ⟨name, value⟩ := entry
      by_cases hlt : k < name
      · rw [insert_cons_of_lt hlt, insert_cons_of_lt hlt, insert_cons_self]
      · by_cases heq : name = k
        · subst heq
          rw [insert_cons_self, insert_cons_self, insert_cons_self]
        · rw [insert_cons_of_ne hlt heq, insert_cons_of_ne hlt heq, insert_cons_of_ne hlt heq, ih]

/-- Entries of different names may be put in in any order. -/
lemma insert_comm_of_lt (h : k < l) (v w : α) (r : Record α) :
    insert k v (insert l w r) = insert l w (insert k v r) := by
  have back : ¬ l < k := String.lt_asymm h
  have differs : k ≠ l := fun same => String.lt_irrefl l (same ▸ h)
  induction r with
  | nil => exact (insert_cons_of_lt h v w []).trans (insert_cons_of_ne back differs w v []).symm
  | cons entry rest ih =>
      obtain ⟨name, value⟩ := entry
      by_cases hl : l < name
      · have hk : k < name := String.lt_trans h hl
        rw [insert_cons_of_lt hl, insert_cons_of_lt h, insert_cons_of_lt hk,
          insert_cons_of_ne back differs, insert_cons_of_lt hl]
      · by_cases heq : name = l
        · subst heq
          rw [insert_cons_self, insert_cons_of_lt h, insert_cons_of_lt h,
            insert_cons_of_ne back differs, insert_cons_self]
        · rw [insert_cons_of_ne hl heq]
          by_cases hk : k < name
          · rw [insert_cons_of_lt hk, insert_cons_of_lt hk, insert_cons_of_ne back differs,
              insert_cons_of_ne hl heq]
          · by_cases same : name = k
            · subst same
              rw [insert_cons_self, insert_cons_self, insert_cons_of_ne back differs]
            · rw [insert_cons_of_ne hk same, insert_cons_of_ne hk same, insert_cons_of_ne hl heq, ih]

/-- Entries of different names may be put in one after the other in any order, also where the names
of the record are not in order. -/
lemma insert_comm (h : k ≠ l) (v w : α) (r : Record α) :
    insert k v (insert l w r) = insert l w (insert k v r) := by
  by_cases lt : k < l
  · exact insert_comm_of_lt lt v w r
  · have gt : l < k := Std.lt_of_le_of_ne (String.not_lt.1 lt) (Ne.symm h)
    exact (insert_comm_of_lt gt w v r).symm

/-- An entry that comes before all of the upper record stays in front of them. -/
lemma overlay_insert_of_lt {upper : Record α} (h : ∀ entry ∈ upper, k < entry.1) (v : α)
    (lower : Record α) : overlay (insert k v lower) upper = insert k v (overlay lower upper) := by
  induction upper generalizing lower with
  | nil => rfl
  | cons entry rest ih =>
      obtain ⟨name, value⟩ := entry
      have differs : name ≠ k := by
        intro same
        exact String.lt_irrefl k (same ▸ h _ (List.mem_cons_self ..))
      rw [overlay, overlay, insert_comm differs]
      exact ih (fun e he => h e (List.mem_cons_of_mem _ he)) _

/-- An entry of an ordered record may as well be laid over the others. -/
lemma overlay_insert {upper : Record α} (h : upper.Ordered) (lower : Record α) (k : String)
    (v : α) : overlay lower (insert k v upper) = insert k v (overlay lower upper) := by
  induction upper generalizing lower with
  | nil => rfl
  | cons entry rest ih =>
      obtain ⟨name, value⟩ := entry
      obtain ⟨first, later⟩ := List.pairwise_cons.1 h
      by_cases hlt : k < name
      · have all : ∀ e ∈ (name, value) :: rest, k < e.1 := by
          intro e he
          rcases List.mem_cons.1 he with rfl | he
          · exact hlt
          · exact String.lt_trans hlt (first e he)
        rw [insert, if_pos hlt, overlay]
        exact overlay_insert_of_lt all v lower
      · by_cases heq : name = k
        · subst heq
          rw [insert, if_neg hlt, if_pos rfl, overlay, overlay, overlay_insert_of_lt first,
            overlay_insert_of_lt first, insert_insert]
        · rw [insert, if_neg hlt, if_neg heq, overlay, overlay]
          exact ih later _

/-- **It makes no difference whether entries are laid over a record one by one or as the record that
they are.** -/
lemma overlay_ofList (lower : Record α) (entries : List (String × α)) :
    overlay lower (ofList entries) = overlay lower entries := by
  induction entries using List.reverseRecOn with
  | nil => rfl
  | append_singleton entries entry ih =>
      obtain ⟨k, v⟩ := entry
      have last : ofList (entries ++ [(k, v)]) = insert k v (ofList entries) :=
        overlay_append [] entries [(k, v)]
      rw [last, overlay_insert (ordered_ofList entries), ih, overlay_append]
      rfl

end Record

/-- What functions have printed, one after the other. -/
def printedBy : List Reply → String
  | [] => ""
  | reply :: rest => reply.printed ++ printedBy rest

/-! ## Gates -/

namespace Gate

variable {functions : Registry} {context : Context}

/-- **Conditions that hold**, with the replies of their functions. -/
def Hold (functions : Registry) (context : Context) (g : Gate) (replies : List Reply) : Prop :=
  List.Forall₂ (fun (c : Condition) (reply : Reply) =>
    c.evaluate functions context = .ok reply ∧ reply.value.truthy = true) g replies

/-- **How a gate is decided**, and what is printed: all conditions hold, or the first one that does
not hold or fails decides.  The conditions behind that one may be any. -/
inductive Decided (functions : Registry) (context : Context) :
    Gate → Except RunError Bool × String → Prop where
  | passed {g : Gate} {replies : List Reply} (h : Hold functions context g replies) :
      Decided functions context g (.ok true, printedBy replies)
  | falsy {before : Gate} {c : Condition} (behind : Gate) {replies : List Reply} {reply : Reply}
      (h : Hold functions context before replies) (hc : c.evaluate functions context = .ok reply)
      (hf : reply.value.truthy = false) :
      Decided functions context (before ++ c :: behind)
        (.ok false, printedBy replies ++ reply.printed)
  | failed {before : Gate} {c : Condition} (behind : Gate) {replies : List Reply} {e : RunError}
      (h : Hold functions context before replies)
      (hc : c.evaluate functions context = .error e) :
      Decided functions context (before ++ c :: behind) (.error e, printedBy replies)

/-- Conditions that hold leave the decision to those behind them. -/
lemma passes_of_hold {before : Gate} {replies : List Reply}
    (h : Hold functions context before replies) (behind : Gate) :
    passes functions context (before ++ behind) =
      ((passes functions context behind).1,
        printedBy replies ++ (passes functions context behind).2) := by
  induction h with
  | nil => simp [printedBy]
  | @cons c reply before replies hc _ ih =>
      have step : passes functions context (c :: (before ++ behind)) =
          ((passes functions context (before ++ behind)).1,
            reply.printed ++ (passes functions context (before ++ behind)).2) := by
        simp [passes, hc.1, hc.2]
      rw [List.cons_append, step, ih, printedBy, String.append_assoc]

/-- What a gate comes to is decided from left to right. -/
lemma decided_passes (g : Gate) : Decided functions context g (passes functions context g) := by
  induction g with
  | nil => exact .passed .nil
  | cons c rest ih =>
      rcases hc : c.evaluate functions context with e | reply
      · have decides : Decided functions context ([] ++ c :: rest) (.error e, printedBy []) :=
          .failed rest .nil hc
        simpa [passes, hc, printedBy] using decides
      · rcases hv : reply.value.truthy with _ | _
        · have decides : Decided functions context ([] ++ c :: rest)
              (.ok false, printedBy [] ++ reply.printed) :=
            .falsy rest .nil hc hv
          simpa [passes, hc, hv, printedBy] using decides
        · have passed : passes functions context (c :: rest) =
              ((passes functions context rest).1,
                reply.printed ++ (passes functions context rest).2) := by
            simp [passes, hc, hv]
          rw [passed]
          generalize passes functions context rest = result at ih
          cases ih with
          | passed h => exact .passed (.cons ⟨hc, hv⟩ h)
          | @falsy before _ behind replies last h hl hf =>
              have all : Hold functions context (c :: before) (reply :: replies) :=
                .cons ⟨hc, hv⟩ h
              simpa [printedBy, String.append_assoc] using Decided.falsy behind all hl hf
          | @failed before _ behind replies e h hl =>
              have all : Hold functions context (c :: before) (reply :: replies) :=
                .cons ⟨hc, hv⟩ h
              exact .failed behind all hl

/-- **A gate passes as it is decided**, and is decided in one way. -/
theorem passes_iff {g : Gate} {result : Except RunError Bool × String} :
    passes functions context g = result ↔ Decided functions context g result := by
  constructor
  · rintro rfl
    exact decided_passes g
  · intro h
    cases h with
    | passed h => simpa [passes] using passes_of_hold h []
    | falsy behind h hc hf => simp [passes_of_hold h, passes, hc, hf]
    | failed behind h hc => simp [passes_of_hold h, passes, hc]

end Gate

/-! ## Pipelines -/

namespace Task

variable {functions : Registry} {context : Context}

/-- What tasks bind when their functions reply, in order. -/
def bindings (tasks : List Task) (replies : List Reply) : List (String × Json) :=
  (tasks.zip replies).filterMap fun (task, reply) =>
    task.output.map fun name => (name, reply.value)

/-- **The outputs of tasks**: of two tasks that bind one name the later counts. -/
def outputs (tasks : List Task) (replies : List Reply) : Context :=
  Record.ofList (bindings tasks replies)

/-- The value that the last task to bind a name gives it. -/
def lastBound (name : String) (tasks : List Task) (replies : List Reply) : Option Json :=
  (tasks.zip replies).reverse.findSome? fun (task, reply) =>
    if task.output = some name then some reply.value else none

/-- **Tasks that all succeed**, each in the context under the outputs of the tasks before it. -/
def Succeed (functions : Registry) (context : Context) (tasks : List Task)
    (replies : List Reply) : Prop :=
  replies.length = tasks.length ∧ ∀ (i : Nat) (task : Task) (reply : Reply),
    tasks[i]? = some task → replies[i]? = some reply →
      task.perform functions
        (Record.overlay context (outputs (tasks.take i) (replies.take i))) = .ok reply

/-- What is under a name of the outputs was bound to it last. -/
lemma get?_outputs (name : String) (tasks : List Task) (replies : List Reply) :
    Record.get? name (outputs tasks replies) = lastBound name tasks replies := by
  simp only [outputs, bindings, lastBound]
  induction tasks.zip replies with
  | nil => rfl
  | cons entry rest ih =>
      obtain ⟨task, reply⟩ := entry
      rw [List.reverse_cons, List.findSome?_append, ← ih]
      rcases ho : task.output with _ | output
      · simp [ho]
      · simp [ho]

/-- What a task binds itself comes before what the tasks behind it bind. -/
lemma overlay_bindings_cons (task : Task) (reply : Reply) (tasks : List Task)
    (replies : List Reply) (context : Context) :
    Record.overlay context (bindings (task :: tasks) (reply :: replies)) =
      Record.overlay (task.bind reply.value context) (bindings tasks replies) := by
  rw [bind]
  rcases ho : task.output with _ | name
  · simp [bindings, ho]
  · simp [bindings, ho, Record.overlay]

lemma succeed_cons {task : Task} {reply : Reply} {tasks : List Task} {replies : List Reply} :
    Succeed functions context (task :: tasks) (reply :: replies) ↔
      task.perform functions context = .ok reply ∧
        Succeed functions (task.bind reply.value context) tasks replies := by
  have shift (i : Nat) : Record.overlay context
      (outputs ((task :: tasks).take (i + 1)) ((reply :: replies).take (i + 1))) =
        Record.overlay (task.bind reply.value context)
          (outputs (tasks.take i) (replies.take i)) := by
    rw [outputs, outputs, Record.overlay_ofList, Record.overlay_ofList, List.take_succ_cons,
      List.take_succ_cons, overlay_bindings_cons]
  constructor
  · rintro ⟨long, all⟩
    refine ⟨all 0 task reply rfl rfl, by simpa using long, ?_⟩
    intro i t r ht hr
    rw [← shift i]
    exact all (i + 1) t r ht hr
  · rintro ⟨first, long, all⟩
    refine ⟨by simp [long], ?_⟩
    intro i t r ht hr
    cases i with
    | zero =>
        obtain rfl : task = t := by simpa using ht
        obtain rfl : reply = r := by simpa using hr
        exact first
    | succ i =>
        rw [shift i]
        exact all i t r (by simpa using ht) (by simpa using hr)

lemma succeed_nil {replies : List Reply} :
    Succeed functions context [] replies ↔ replies = [] := by
  constructor
  · intro h
    exact List.length_eq_zero_iff.1 h.1
  · rintro rfl
    exact ⟨rfl, fun i task reply ht => by simp at ht⟩

end Task

namespace Processor

variable {functions : Registry} {context : Context}

/-- Tasks that succeed leave the rest of a pipeline to those behind them. -/
lemma runTasks_of_succeed {before : List Task} {replies : List Reply}
    (h : Task.Succeed functions context before replies) (behind : List Task) (outputs : Context) :
    runTasks functions (before ++ behind) context outputs =
      let rest := runTasks functions behind
        (Record.overlay context (Task.bindings before replies))
        (Record.overlay outputs (Task.bindings before replies))
      { rest with printed := printedBy replies ++ rest.printed } := by
  induction before generalizing context outputs replies with
  | nil =>
      obtain rfl := Task.succeed_nil.1 h
      simp [printedBy, Task.bindings, Record.overlay]
  | cons task tasks ih =>
      obtain _ | ⟨reply, replies⟩ := replies
      · cases h.1
      · obtain ⟨first, others⟩ := Task.succeed_cons.1 h
        simp only [List.cons_append, runTasks, first, ih others, Task.overlay_bindings_cons,
          printedBy, String.append_assoc]

/-- **What a processor comes to**: the outcome, the context that it leaves and what is printed. -/
inductive ComesTo (p : Processor) (functions : Registry) (context : Context) : Result → Prop where
  | skipped {printed : String}
      (hg : Gate.Decided functions context p.gate (.ok false, printed)) :
      ComesTo p functions context ⟨.ok .skipped, context, printed⟩
  | refused {e : RunError} {printed : String}
      (hg : Gate.Decided functions context p.gate (.error e, printed)) :
      ComesTo p functions context ⟨.error e, context, printed⟩
  | ran {printed : String} {replies : List Reply}
      (hg : Gate.Decided functions context p.gate (.ok true, printed))
      (ht : Task.Succeed functions context p.pipeline replies) :
      ComesTo p functions context ⟨.ok (.ran (Task.outputs p.pipeline replies)),
        Record.overlay context (Task.outputs p.pipeline replies), printed ++ printedBy replies⟩
  | broke {printed : String} {before : List Task} {task : Task} {behind : List Task}
      {replies : List Reply} {e : RunError} (hp : p.pipeline = before ++ task :: behind)
      (hg : Gate.Decided functions context p.gate (.ok true, printed))
      (ht : Task.Succeed functions context before replies)
      (he : task.perform functions
        (Record.overlay context (Task.outputs before replies)) = .error e) :
      ComesTo p functions context ⟨.error e,
        Record.overlay context (Task.outputs before replies), printed ++ printedBy replies⟩

/-- Tasks succeed as far as one fails. -/
lemma succeed_or_fail (functions : Registry) (tasks : List Task) (context : Context) :
    (∃ replies, Task.Succeed functions context tasks replies) ∨
      ∃ before task behind replies e, tasks = before ++ task :: behind ∧
        Task.Succeed functions context before replies ∧
        task.perform functions
          (Record.overlay context (Task.outputs before replies)) = .error e := by
  induction tasks generalizing context with
  | nil => exact .inl ⟨[], Task.succeed_nil.2 rfl⟩
  | cons task tasks ih =>
      rcases hp : task.perform functions context with e | reply
      · exact .inr ⟨[], task, tasks, [], e, rfl, Task.succeed_nil.2 rfl, hp⟩
      · rcases ih (task.bind reply.value context) with ⟨replies, h⟩ |
          ⟨before, t, behind, replies, e, rfl, h, he⟩
        · exact .inl ⟨reply :: replies, Task.succeed_cons.2 ⟨hp, h⟩⟩
        · refine .inr ⟨task :: before, t, behind, reply :: replies, e, rfl,
            Task.succeed_cons.2 ⟨hp, h⟩, ?_⟩
          rw [Task.outputs, Record.overlay_ofList, Task.overlay_bindings_cons,
            ← Record.overlay_ofList]
          exact he

/-- A processor whose gate passes runs its tasks. -/
lemma run_of_passed {p : Processor} {printed : String}
    (hg : Gate.Decided functions context p.gate (.ok true, printed)) :
    p.run functions context =
      let result := runTasks functions p.pipeline context []
      { result with printed := printed ++ result.printed } := by
  rw [run, Gate.passes_iff.2 hg]

lemma run_of_comesTo {p : Processor} {result : Result}
    (h : p.ComesTo functions context result) : p.run functions context = result := by
  cases h with
  | skipped hg => rw [run, Gate.passes_iff.2 hg]
  | refused hg => rw [run, Gate.passes_iff.2 hg]
  | @ran printed replies hg ht =>
      have whole := runTasks_of_succeed ht [] []
      rw [List.append_nil] at whole
      rw [run_of_passed hg, whole]
      rw [Task.outputs, Record.overlay_ofList]
      simp [runTasks, Record.ofList]
  | @broke printed before task behind replies e hp hg ht he =>
      rw [run_of_passed hg, hp, runTasks_of_succeed ht]
      rw [Task.outputs, Record.overlay_ofList] at he ⊢
      simp [runTasks, he]

/-- Every processor comes to what it runs to. -/
lemma comesTo_run (p : Processor) (functions : Registry) (context : Context) :
    p.ComesTo functions context (p.run functions context) := by
  rcases hg : p.gate.passes functions context with ⟨e | _ | _, printed⟩
  · have comes : p.ComesTo functions context _ := .refused (Gate.passes_iff.1 hg)
    rwa [run_of_comesTo comes]
  · have comes : p.ComesTo functions context _ := .skipped (Gate.passes_iff.1 hg)
    rwa [run_of_comesTo comes]
  · have passed := Gate.passes_iff.1 hg
    rcases succeed_or_fail functions p.pipeline context with ⟨replies, h⟩ |
      ⟨before, task, behind, replies, e, hp, h, he⟩
    · have comes : p.ComesTo functions context _ := .ran passed h
      rwa [run_of_comesTo comes]
    · have comes : p.ComesTo functions context _ := .broke hp passed h he
      rwa [run_of_comesTo comes]

/-- **A processor comes to this and to nothing else.** -/
theorem run_iff {p : Processor} {result : Result} :
    p.run functions context = result ↔ p.ComesTo functions context result := by
  constructor
  · rintro rfl
    exact comesTo_run p functions context
  · exact run_of_comesTo

/-! ## One pipeline behind another -/

/-- The outputs of a second pipeline lie over those of a first one. -/
def Outcome.behind (outputs : Context) : Outcome → Outcome
  | .skipped => .skipped
  | .ran more => .ran (Record.overlay outputs more)

/-- **Go on where a processor has run** to its end; a skipped or failed one is left as it is. -/
def Result.andThen (first : Result) (next : Context → Result) : Result :=
  match first.outcome with
  | .ok (.ran outputs) =>
    let second := next first.context
    ⟨second.outcome.map (.behind outputs), second.context, first.printed ++ second.printed⟩
  | _ => first

/-- Tasks behind earlier outputs run as they do by themselves. -/
lemma runTasks_behind (functions : Registry) (tasks : List Task) (context outputs : Context) :
    runTasks functions tasks context outputs =
      let result := runTasks functions tasks context []
      ⟨result.outcome.map (.behind outputs), result.context, result.printed⟩ := by
  rcases succeed_or_fail functions tasks context with ⟨replies, h⟩ |
    ⟨before, task, behind, replies, e, rfl, h, he⟩
  · have whole (start : Context) := runTasks_of_succeed h [] start
    simp only [List.append_nil] at whole
    rw [whole outputs, whole []]
    have same : Record.overlay outputs (Task.bindings tasks replies) =
        Record.overlay outputs (Record.overlay [] (Task.bindings tasks replies)) :=
      (Record.overlay_ofList outputs _).symm
    simp only [runTasks, Except.map, Outcome.behind, same]
  · rw [Task.outputs, Record.overlay_ofList] at he
    rw [runTasks_of_succeed h, runTasks_of_succeed h]
    simp [runTasks, he, Except.map]

/-- **A pipeline behind another one**, behind one gate: the second one runs, behind no gate, where
the first one has run to its end. -/
theorem run_append (functions : Registry) (label other : String) (gate : Gate)
    (first second : List Task) (context : Context) :
    run ⟨label, gate, first ++ second⟩ functions context =
      (run ⟨label, gate, first⟩ functions context).andThen fun c =>
        run ⟨other, [], second⟩ functions c := by
  have ungated (c : Context) : run ⟨other, [], second⟩ functions c =
      runTasks functions second c [] := by
    simp [run, Gate.passes]
  simp only [ungated]
  rcases hg : gate.passes functions context with ⟨e | _ | _, printed⟩
  · simp [run, hg, Result.andThen]
  · simp [run, hg, Result.andThen]
  · simp only [run, hg]
    rcases succeed_or_fail functions first context with ⟨replies, h⟩ |
      ⟨before, task, behind, replies, e, rfl, h, he⟩
    · have whole := runTasks_of_succeed h [] []
      rw [List.append_nil] at whole
      rw [whole, runTasks_of_succeed h, runTasks_behind]
      simp [runTasks, Result.andThen, String.append_assoc]
    · rw [Task.outputs, Record.overlay_ofList] at he
      rw [List.append_assoc, List.cons_append, runTasks_of_succeed h, runTasks_of_succeed h]
      simp [runTasks, he, Result.andThen]

/-! ## All of it -/

/-- **What a processor does, in order.**  Its conditions are looked at from left to right, up to the
first that does not hold; its tasks run from left to right, each in the context under the outputs of
those before it, up to the first that fails, and the context is left under the outputs of those that
have succeeded.  Of the values bound to a name the last one counts.  Hence a pipeline can be cut
anywhere: its second part runs behind no gate in the context that the first part leaves. -/
theorem run_in_order (functions : Registry) :
    (∀ (p : Processor) (context : Context) (result : Result),
      p.run functions context = result ↔ p.ComesTo functions context result) ∧
    (∀ (tasks : List Task) (replies : List Reply) (name : String),
      Record.get? name (Task.outputs tasks replies) = Task.lastBound name tasks replies) ∧
    ∀ (label other : String) (gate : Gate) (first second : List Task) (context : Context),
      run ⟨label, gate, first ++ second⟩ functions context =
        (run ⟨label, gate, first⟩ functions context).andThen fun c =>
          run ⟨other, [], second⟩ functions c :=
  ⟨fun _ _ _ => run_iff, fun tasks replies name => Task.get?_outputs name tasks replies,
    run_append functions⟩

/-! ## What a processor leaves alone -/

/-- The names that the tasks of a processor bind. -/
def outputNames (p : Processor) : List String := p.pipeline.filterMap Task.output

/-- A name that no task binds is left alone. -/
lemma get?_runTasks {name : String} {tasks : List Task}
    (h : name ∉ tasks.filterMap Task.output) (context outputs : Context) :
    Record.get? name (runTasks functions tasks context outputs).context =
      Record.get? name context := by
  induction tasks generalizing context outputs with
  | nil => rfl
  | cons task tasks ih =>
      simp only [runTasks]
      rcases task.perform functions context with e | reply
      · rfl
      · rcases ho : task.output with _ | other
        · simp only [List.filterMap_cons, ho] at h
          rw [ih h, Task.bind, ho]
        · simp only [List.filterMap_cons, ho, List.mem_cons, not_or] at h
          rw [ih h.2, Task.bind, ho, Record.get?_insert, if_neg (Ne.symm h.1)]

/-- **A name that no task binds keeps its value**, however the processor ends. -/
theorem get?_run {p : Processor} {name : String} (h : name ∉ p.outputNames) (context : Context) :
    Record.get? name (p.run functions context).context = Record.get? name context := by
  rw [run]
  rcases p.gate.passes functions context with ⟨e | _ | _, printed⟩
  · rfl
  · rfl
  · exact get?_runTasks h context []

end Processor

end Connector
