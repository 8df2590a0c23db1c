import Connector.Store
import Mathlib.Data.List.Basic
import Mathlib.Data.List.Induction

/-!
# Which namespaces share an entry

The store keeps the content of a namespace under one text, with slashes between the fragments.  A
fragment may have slashes of its own, so what counts is where the text can be cut: two namespaces
share an entry exactly when their fragments, cut at every slash, are the same.

* `scopePieces` — the fragments of a namespace, cut at every slash.
* `namespaceKey_eq_iff` — when two namespaces have one key; `Plain` namespaces do only when they
  are the same.
* `Store.Operation`, `Store.history` — a store that is read, written and cleared any number of
  times.
* **`Store.get_history`** — what is read is what was last written under the same pieces.
* `Store.get_history_slash` — it need not have been written under the same list of fragments.
-/

namespace Connector

/-! ## Keys -/

/-- **The pieces of a namespace**: its fragments, cut at every slash.  The empty namespace has one
piece, the key of its own. -/
def scopePieces (scope : List String) : List (List Char) :=
  if scope.isEmpty then [defaultKey.toList]
  else scope.flatMap fun fragment => fragment.toList.splitOn '/'

/-- To cut what was joined is to cut the parts. -/
lemma splitOn_joinWith (c : Char) {parts : List (List Char)} (h : parts ≠ []) :
    (Text.joinWith [c] parts).splitOn c = parts.flatMap (·.splitOn c) := by
  induction parts with
  | nil => exact absurd rfl h
  | cons part rest ih =>
      rcases rest with _ | ⟨next, rest⟩
      · simp [Text.joinWith]
      · have joined : Text.joinWith [c] (part :: next :: rest) =
            part ++ c :: Text.joinWith [c] (next :: rest) := by simp [Text.joinWith]
        rw [joined, List.splitOn_append_cons_self, ih (List.cons_ne_nil _ _)]
        rfl

lemma splitOn_of_not_mem {c : Char} {cs : List Char} (h : c ∉ cs) : cs.splitOn c = [cs] :=
  List.splitOn_eq_singleton h

/-- The key of a namespace, cut at every slash, is its pieces. -/
lemma splitOn_namespaceKey (scope : List String) :
    (namespaceKey scope).toList.splitOn '/' = scopePieces scope := by
  rw [namespaceKey, scopePieces]
  split_ifs with h
  · exact splitOn_of_not_mem (by decide)
  · have parts : scope.map String.toList ≠ [] := by simpa using h
    rw [String.toList_ofList, splitOn_joinWith '/' parts, List.flatMap_map]

/-- **Two namespaces have one key exactly when they have the same pieces.** -/
theorem namespaceKey_eq_iff {scope other : List String} :
    namespaceKey scope = namespaceKey other ↔ scopePieces scope = scopePieces other := by
  rw [← splitOn_namespaceKey, ← splitOn_namespaceKey]
  refine ⟨fun h => by rw [h], fun h => String.toList_inj.1 ?_⟩
  calc (namespaceKey scope).toList
      = ['/'].intercalate ((namespaceKey scope).toList.splitOn '/') :=
        (List.intercalate_splitOn '/').symm
    _ = ['/'].intercalate ((namespaceKey other).toList.splitOn '/') := by rw [h]
    _ = (namespaceKey other).toList := List.intercalate_splitOn '/'

/-- **A plain namespace**: no fragment has a slash, and it does not spell the key of the empty
namespace. -/
structure Plain (scope : List String) : Prop where
  noSlash : ∀ fragment ∈ scope, '/' ∉ fragment.toList
  notDefault : scope ≠ [defaultKey]

lemma Plain.pieces {scope : List String} (h : Plain scope) (hs : scope ≠ []) :
    scopePieces scope = scope.map String.toList := by
  rw [scopePieces, if_neg (by simpa using hs), List.map_eq_flatMap]
  exact List.flatMap_congr fun fragment hf => splitOn_of_not_mem (h.noSlash fragment hf)

/-- The pieces of a plain namespace are not those of the empty one. -/
lemma Plain.pieces_ne {scope : List String} (h : Plain scope) (hs : scope ≠ []) :
    scopePieces scope ≠ scopePieces [] := by
  intro same
  refine h.notDefault (List.map_injective_iff.2 (fun _ _ => String.toList_inj.1) ?_)
  rw [← h.pieces hs, same]
  rfl

/-- **Plain namespaces have one key only when they are the same.** -/
theorem Plain.namespaceKey_inj {scope other : List String} (h : Plain scope) (h' : Plain other) :
    namespaceKey scope = namespaceKey other ↔ scope = other := by
  refine ⟨fun same => ?_, congrArg namespaceKey⟩
  rw [namespaceKey_eq_iff] at same
  by_cases hs : scope = [] <;> by_cases ho : other = []
  · rw [hs, ho]
  · exact absurd (hs ▸ same).symm (h'.pieces_ne ho)
  · exact absurd (ho ▸ same) (h.pieces_ne hs)
  · rw [h.pieces hs, h'.pieces ho] at same
    exact List.map_injective_iff.2 (fun _ _ => String.toList_inj.1) same

/-! ## Histories -/

namespace Store

/-- **What can be done with a store.** -/
inductive Operation where
  | set (scope : List String) (content : Context)
  | delete (scope : List String)
  | get (scope : List String)

namespace Operation

/-- The namespace that an operation is about. -/
def scope : Operation → List String
  | .set scope _ => scope
  | .delete scope => scope
  | .get scope => scope

/-- What an operation leaves for its namespace, unless it only reads: a content or nothing. -/
def left? : Operation → Option (Option Context)
  | .set _ content => some (some content)
  | .delete _ => some none
  | .get _ => none

/-- A store after an operation; one that fails changes nothing. -/
def apply (s : Store) : Operation → Store
  | .set scope content => (s.set scope content).toOption.getD s
  | .delete scope => s.delete scope
  | .get _ => s

end Operation

/-- A store in memory, with nothing in it. -/
def memory : Store := ⟨[]⟩

/-- **A store in memory after a number of operations.** -/
def history (operations : List Operation) : Store := operations.foldl Operation.apply memory

/-- **What was last left for the namespaces that `same` picks out**: the content of the last `set`
of one of them, unless there is none or a `delete` came later. -/
def lastLeft (same : List String → Bool) (operations : List Operation) : Option Context :=
  ((operations.filter fun o => same o.scope).filterMap Operation.left?).getLast?.join

variable {s : Store} {scope : List String}

/-- **What one operation does to what is read**: it leaves its content under its own key, and
changes nothing under any other. -/
lemma get_apply (o : Operation) :
    (o.apply s).get scope =
      if namespaceKey o.scope = namespaceKey scope then o.left?.elim (s.get scope) .ok
      else s.get scope := by
  cases o with
  | set other content =>
      show Except.ok (Record.get? (namespaceKey scope)
        (Record.insert (namespaceKey other) content s.entries)) = _
      rw [Record.get?_insert]
      exact apply_ite Except.ok _ _ _
  | delete other =>
      show Except.ok (Record.get? (namespaceKey scope)
        (Record.erase (namespaceKey other) s.entries)) = _
      rw [Record.get?_erase]
      exact apply_ite Except.ok _ _ _
  | get other => simp [Operation.apply, Operation.left?]

/-- What was left last counts. -/
lemma lastLeft_append (same : List String → Bool) (before : List Operation) (o : Operation) :
    lastLeft same (before ++ [o]) =
      if same o.scope then o.left?.getD (lastLeft same before) else lastLeft same before := by
  rw [lastLeft, lastLeft, List.filter_append, List.filterMap_append, List.getLast?_append]
  split_ifs with h
  · rcases ho : o.left? with _ | left <;> simp [h, ho]
  · simp [h]

/-- What is read is what was last written under the same key. -/
lemma get_history_key (operations : List Operation) (scope : List String) :
    (history operations).get scope =
      .ok (lastLeft (fun other => namespaceKey other = namespaceKey scope) operations) := by
  induction operations using List.reverseRecOn with
  | nil => rfl
  | append_singleton before o ih =>
      have last : history (before ++ [o]) = o.apply (history before) := by
        rw [history, List.foldl_append]; rfl
      rw [last, get_apply, lastLeft_append, ih]
      simp only [decide_eq_true_eq]
      split_ifs
      · cases o.left? <;> rfl
      · rfl

/-- What is read is what was last written under the same pieces. -/
lemma get_history_pieces (operations : List Operation) (scope : List String) :
    (history operations).get scope =
      .ok (lastLeft (fun other => scopePieces other = scopePieces scope) operations) := by
  have same : (fun other => decide (namespaceKey other = namespaceKey scope)) =
      fun other => decide (scopePieces other = scopePieces scope) :=
    funext fun other => decide_eq_decide.2 namespaceKey_eq_iff
  rw [get_history_key, same]

/-- Plain namespaces are kept apart: reading one gives what was last written under it. -/
lemma get_history_plain {operations : List Operation} (ho : ∀ o ∈ operations, Plain o.scope)
    (hs : Plain scope) :
    (history operations).get scope = .ok (lastLeft (· = scope) operations) := by
  have same : operations.filter (fun o => namespaceKey o.scope = namespaceKey scope) =
      operations.filter fun o => o.scope = scope :=
    List.filter_congr fun o h => decide_eq_decide.2 ((ho o h).namespaceKey_inj hs)
  rw [get_history_key, lastLeft, lastLeft, same]

/-- **What is read is what was last written under the same pieces.**  After any operations on any
namespaces, reading one gives the content of the last `set` of a namespace with the same pieces,
or nothing if there is none or such a namespace was deleted later.  Where all namespaces are plain,
these are the operations on that namespace itself. -/
theorem get_history (operations : List Operation) (scope : List String) :
    (history operations).get scope =
        .ok (lastLeft (fun other => scopePieces other = scopePieces scope) operations) ∧
      ((∀ o ∈ operations, Plain o.scope) → Plain scope →
        (history operations).get scope = .ok (lastLeft (· = scope) operations)) :=
  ⟨get_history_pieces operations scope, get_history_plain⟩

/-- A content written under `["a/b"]` is read under `["a", "b"]`, which nothing was written to. -/
theorem get_history_slash : ¬ ∀ (operations : List Operation) (scope : List String),
    (history operations).get scope = .ok (lastLeft (· = scope) operations) := by
  intro h
  have read : (history [.set ["a/b"] [("page", .str "1")]]).get ["a", "b"] =
      .ok (some [("page", .str "1")]) := by rw [get_history_key]; rfl
  have none : lastLeft (· = ["a", "b"]) [.set ["a/b"] [("page", .str "1")]] = none := rfl
  rw [h, none] at read
  cases read

end Store

end Connector
