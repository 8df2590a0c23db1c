import Connector.Proofs.Work
import Connector.Job.Forking
import Mathlib.Data.List.Forall2
import Mathlib.Data.List.Infix

/-!
# The pieces of a text

A text is cut at the leftmost occurrences of a delimiter that do not overlap.  What the cuts leave
is the text itself, without the delimiter and in order; the function for texts and the stage of a
job cut alike.

* `Leftmost` — the places where the occurrences stand, said by themselves.
* `Cut` — a text taken apart at the first occurrence, and again behind it; `cut_pieces` — every
  scan is one.
* `Cut.joined`, `Cut.free`, `Cut.places` — what all cuts have in common.
* **`splits_alike`** — the function and the stage, for every text and every delimiter.
-/

namespace Connector

namespace Text

variable {delimiter cs : List Char}

/-! ## Occurrences -/

/-- A delimiter stands at a place of a text. -/
def StandsAt (delimiter cs : List Char) (place : Nat) : Prop := delimiter <+: cs.drop place

/-- **The leftmost occurrences that do not overlap**, from a place on: the first one there is, and
those from its end on. -/
inductive Leftmost (delimiter cs : List Char) : Nat → List Nat → Prop where
  | none {start : Nat} (h : ∀ i, start ≤ i → ¬ StandsAt delimiter cs i) :
      Leftmost delimiter cs start []
  | next {start place : Nat} {later : List Nat} (hs : start ≤ place)
      (h : StandsAt delimiter cs place)
      (first : ∀ i, start ≤ i → i < place → ¬ StandsAt delimiter cs i)
      (hl : Leftmost delimiter cs (place + delimiter.length) later) :
      Leftmost delimiter cs start (place :: later)

/-- There is one list of them. -/
lemma Leftmost.unique {start : Nat} {places others : List Nat}
    (h : Leftmost delimiter cs start places) (h' : Leftmost delimiter cs start others) :
    places = others := by
  induction h generalizing others with
  | none nowhere =>
      cases h' with
      | none => rfl
      | next hs here => exact absurd here (nowhere _ hs)
  | @next start place later hs here first _ ih =>
      cases h' with
      | none nowhere => exact absurd here (nowhere _ hs)
      | @next _ other later' hs' here' first' hl' =>
          have after : ¬ other < place := fun before => first other hs' before here'
          have before : ¬ place < other := fun after => first' place hs after here
          obtain rfl : place = other := by omega
          rw [ih hl']

/-! ## Cuts -/

/-- **A text taken apart**: at the first occurrence of the delimiter, and what is behind it again,
as long as there is one. -/
inductive Cut (delimiter : List Char) : List Char → List (List Char) → Prop where
  | last {cs : List Char} (h : ¬ delimiter <:+: cs) : Cut delimiter cs [cs]
  | first {before behind : List Char} {pieces : List (List Char)}
      (h : ∀ i < before.length, ¬ StandsAt delimiter (before ++ delimiter ++ behind) i)
      (hc : Cut delimiter behind pieces) :
      Cut delimiter (before ++ delimiter ++ behind) (before :: pieces)

namespace Cut

variable {parts : List (List Char)}

lemma ne_nil (h : Cut delimiter cs parts) : parts ≠ [] := by
  cases h <;> exact List.cons_ne_nil _ _

/-- The pieces with the delimiter between them are the text. -/
lemma joined (h : Cut delimiter cs parts) : delimiter.intercalate parts = cs := by
  induction h with
  | last => exact List.intercalate_singleton
  | @first before behind pieces _ hc ih =>
      obtain ⟨piece, rest, rfl⟩ := List.exists_cons_of_ne_nil hc.ne_nil
      rw [List.intercalate_cons_cons, ih]

/-- In front of the first occurrence there is none: one inside would stand further left. -/
lemma free_before {before behind : List Char} (hd : delimiter ≠ [])
    (h : ∀ i < before.length, ¬ StandsAt delimiter (before ++ delimiter ++ behind) i) :
    ¬ delimiter <:+: before := by
  rintro ⟨s, t, rfl⟩
  have room : 0 < delimiter.length := List.length_pos_iff.2 hd
  refine h s.length (by simp only [List.length_append]; omega) ?_
  refine ⟨t ++ delimiter ++ behind, ?_⟩
  simp only [List.append_assoc, List.drop_left]

/-- No piece has the delimiter in it. -/
lemma free (hd : delimiter ≠ []) (h : Cut delimiter cs parts) :
    ∀ piece ∈ parts, ¬ delimiter <:+: piece := by
  induction h with
  | last h => exact List.forall_mem_singleton.2 h
  | first h _ ih => exact List.forall_mem_cons.2 ⟨free_before hd h, ih⟩

/-- **There is one piece more than there are leftmost occurrences.**  By induction on the cuts, for
the rest of the text from any place on. -/
lemma places {rest : List Char} (h : Cut delimiter rest parts) {start : Nat}
    (hr : cs.drop start = rest) :
    ∃ places, Leftmost delimiter cs start places ∧ parts.length = places.length + 1 := by
  induction h generalizing start with
  | @last rest h =>
      refine ⟨[], .none fun i hi stands => h ?_, rfl⟩
      have inside : cs.drop i = rest.drop (i - start) := by
        rw [← hr, List.drop_drop, Nat.add_sub_cancel' hi]
      rw [StandsAt, inside] at stands
      exact stands.isInfix.trans (List.drop_suffix _ _).isInfix
  | @first before behind pieces h _ ih =>
      have further (i : Nat) : cs.drop (start + i) = (before ++ delimiter ++ behind).drop i := by
        rw [← hr, List.drop_drop]
      have left_over : cs.drop (start + before.length + delimiter.length) = behind := by
        rw [Nat.add_assoc, further, ← List.length_append, List.drop_left]
      obtain ⟨places, leftmost, count⟩ := ih left_over
      refine ⟨(start + before.length) :: places, .next (Nat.le_add_right _ _) ?_ ?_ leftmost,
        congrArg (· + 1) count⟩
      · refine ⟨behind, ?_⟩
        rw [further, List.append_assoc, List.drop_left]
      · intro i hs hi stands
        refine h (i - start) (by omega) ?_
        rw [StandsAt, ← further, Nat.add_sub_cancel' hs]
        exact stands

end Cut

/-! ## The scan -/

/-- Characters of a delimiter are passed without a look at them. -/
lemma pieces_skip (cuts : Option Nat) (skip : Nat) (piece : List Char) :
    pieces delimiter cuts skip piece cs = pieces delimiter cuts 0 piece (cs.drop skip) := by
  induction cs generalizing skip with
  | nil => cases skip <;> rfl
  | cons c rest ih =>
      cases skip with
      | zero => rfl
      | succ skip => exact ih skip

/-- At a delimiter the piece ends. -/
lemma pieces_stands (hd : delimiter ≠ []) (piece behind : List Char) :
    pieces delimiter none 0 piece (delimiter ++ behind) =
      piece.reverse :: pieces delimiter none 0 [] behind := by
  obtain ⟨c, rest, rfl⟩ := List.exists_cons_of_ne_nil hd
  have stands : (c :: rest).isPrefixOf (c :: (rest ++ behind)) = true :=
    List.isPrefixOf_iff_prefix.2 (List.prefix_append (c :: rest) behind)
  rw [List.cons_append, pieces, if_pos ⟨nofun, stands⟩, pieces_skip]
  simp

/-- Elsewhere the piece grows. -/
lemma pieces_passes {c : Char} {rest : List Char} (h : ¬ delimiter <+: c :: rest)
    (piece : List Char) :
    pieces delimiter none 0 piece (c :: rest) = pieces delimiter none 0 (c :: piece) rest := by
  rw [pieces, if_neg fun stands => h (List.isPrefixOf_iff_prefix.1 stands.2)]

/-- Up to the first delimiter the piece grows. -/
lemma pieces_before {before rest : List Char}
    (h : ∀ i < before.length, ¬ StandsAt delimiter (before ++ rest) i) (piece : List Char) :
    pieces delimiter none 0 piece (before ++ rest) =
      pieces delimiter none 0 (before.reverse ++ piece) rest := by
  induction before generalizing piece with
  | nil => rfl
  | cons c before ih =>
      have later : ∀ i < before.length, ¬ StandsAt delimiter (before ++ rest) i :=
        fun i hi => h (i + 1) (Nat.succ_lt_succ hi)
      have here : ¬ delimiter <+: c :: (before ++ rest) := h 0 (Nat.succ_pos _)
      rw [List.cons_append, pieces_passes here, ih later, List.reverse_cons, List.append_assoc]
      rfl

/-- Where there is a delimiter, there is a first one. -/
lemma exists_first (h : delimiter <:+: cs) : ∃ before behind,
    cs = before ++ delimiter ++ behind ∧ ∀ i < before.length, ¬ StandsAt delimiter cs i := by
  induction cs with
  | nil =>
      obtain rfl : delimiter = [] := List.eq_nil_of_infix_nil h
      exact ⟨[], [], rfl, nofun⟩
  | cons c rest ih =>
      by_cases here : delimiter <+: c :: rest
      · obtain ⟨behind, hb⟩ := here
        exact ⟨[], behind, hb.symm, nofun⟩
      · rcases List.infix_cons_iff.1 h with starts | inside
        · exact absurd starts here
        · obtain ⟨before, behind, hr, first⟩ := ih inside
          refine ⟨c :: before, behind, by rw [hr]; simp, fun i hi => ?_⟩
          cases i with
          | zero => exact here
          | succ i => exact first i (Nat.lt_of_succ_lt_succ hi)

/-- **Every scan is a cut**, by induction on how much there is to scan. -/
theorem cut_pieces (hd : delimiter ≠ []) (cs : List Char) :
    Cut delimiter cs (pieces delimiter none 0 [] cs) := by
  by_cases h : delimiter <:+: cs
  · obtain ⟨before, behind, rfl, first⟩ := exists_first h
    have shorter : behind.length < (before ++ delimiter ++ behind).length := by
      have room : 0 < delimiter.length := List.length_pos_iff.2 hd
      simp only [List.length_append]
      omega
    rw [List.append_assoc] at first ⊢
    rw [pieces_before first, pieces_stands hd, List.append_nil, List.reverse_reverse,
      ← List.append_assoc]
    rw [← List.append_assoc] at first
    exact .first first (cut_pieces hd behind)
  · have nowhere : ∀ i < cs.length, ¬ StandsAt delimiter (cs ++ []) i := fun i _ stands => by
      rw [StandsAt, List.append_nil] at stands
      exact h (stands.isInfix.trans (List.drop_suffix _ _).isInfix)
    have whole := pieces_before nowhere []
    rw [List.append_nil, List.append_nil, pieces, List.reverse_reverse] at whole
    rw [whole]
    exact .last h
termination_by cs.length

/-! ## Texts -/

/-- **The pieces of a text** at a delimiter. -/
structure Pieces (delimiter s : String) (parts : List String) : Prop where
  /-- Nothing is lost and nothing comes in. -/
  joined : delimiter.intercalate parts = s
  free : ∀ part ∈ parts, ¬ delimiter.toList <:+: part.toList
  none : parts = [] ↔ s = ""
  /-- There is one piece more than there are leftmost occurrences that do not overlap. -/
  count : s ≠ "" → ∃ places,
    (∀ found, Leftmost delimiter.toList s.toList 0 found ↔ found = places) ∧
      parts.length = places.length + 1

lemma pieces_of_cut {delimiter s : String} (hd : delimiter ≠ "") (hs : s ≠ "")
    {parts : List (List Char)} (h : Cut delimiter.toList s.toList parts) :
    Pieces delimiter s (parts.map String.ofList) := by
  have letters : delimiter.toList ≠ [] := fun none => hd (String.toList_inj.1 none)
  refine ⟨?_, ?_, ?_, fun _ => ?_⟩
  · rw [← String.toList_inj, String.toList_intercalate, List.map_map]
    have same : String.toList ∘ String.ofList = id := funext fun _ => String.toList_ofList
    rw [same, List.map_id, h.joined]
  · intro part hp
    obtain ⟨piece, hm, rfl⟩ := List.mem_map.1 hp
    rw [String.toList_ofList]
    exact h.free letters piece hm
  · simp [h.ne_nil, hs]
  · obtain ⟨places, leftmost, count⟩ := h.places (List.drop_zero (l := s.toList))
    refine ⟨places, fun found => ⟨fun hf => hf.unique leftmost, fun same => same ▸ leftmost⟩, ?_⟩
    rw [List.length_map, count]

end Text

/-- **The built-in pieces are pieces.** -/
lemma Builtins.pieces_piecesOf {delimiter : String} (hd : delimiter ≠ "") (s : String) :
    Text.Pieces delimiter s (piecesOf delimiter s) := by
  have letters : delimiter.toList ≠ [] := fun none => hd (String.toList_inj.1 none)
  by_cases hs : s = ""
  · subst hs
    exact ⟨rfl, nofun, by simp [piecesOf], fun h => absurd rfl h⟩
  · have scanned : piecesOf delimiter s =
        (Text.pieces delimiter.toList none 0 [] s.toList).map String.ofList := by
      simp [piecesOf, Text.splitOn, Text.split, hs, letters]
    rw [scanned]
    exact Text.pieces_of_cut hd hs (Text.cut_pieces letters s.toList)

/-- A stage that splits a text yields one context for each of its pieces. -/
lemma Split.perform_text {split : Split} {delimiter s : String} {context : Context}
    (hd : split.delimiter = some delimiter) (hs : split.source.render context = .ok (.str s))
    (token : Token) (w : World) :
    Stage.perform (.split split) token context w =
      (.ok ((Builtins.piecesOf delimiter s).map fun piece =>
        Record.insert split.output (.str piece) context), w) := by
  show attempt (split.contexts context) w = _
  rw [Split.contexts, hs]
  simp only [Split.elements, hd, List.map_map]
  rfl

/-- **One text split by the function and by the stage.** -/
structure SplitsAlike (delimiter s : String) (parts : List String) : Prop where
  pieces : Text.Pieces delimiter s parts
  function : Builtins.splitBy [.str s, .str delimiter] = .ok ⟨.arr (parts.map .str), ""⟩
  /-- There is one context for each piece, in order: the context as it was, but for the piece. -/
  stage (split : Split) (context : Context) (token : Token) (w : World) :
    split.delimiter = some delimiter → split.source.render context = .ok (.str s) →
    ∃ contexts, Stage.perform (.split split) token context w = (.ok contexts, w) ∧
      List.Forall₂ (fun part (c : Context) => ∀ key, Record.get? key c =
        if split.output = key then some (.str part) else Record.get? key context) parts contexts

/-- **The function and the stage split alike**, every text at every delimiter. -/
theorem splits_alike {delimiter : String} (hd : delimiter ≠ "") (s : String) :
    ∃ parts, SplitsAlike delimiter s parts := by
  refine ⟨_, Builtins.pieces_piecesOf hd s, ?_, ?_⟩
  · have some_delimiter : delimiter.isEmpty = false := by simpa using hd
    simp [Builtins.splitBy, Callable.argument, Callable.textArgument, some_delimiter, Json.text,
      Builtins.answer, bind, Except.bind, pure, Except.pure]
  · intro split context token w hdel hsource
    refine ⟨_, Split.perform_text hdel hsource token w, ?_⟩
    rw [List.forall₂_map_right_iff]
    exact List.forall₂_same.2 fun part _ key => Record.get?_insert context _ _ key

/-! A delimiter that overlaps with itself, and stands at both ends and twice in a row. -/

/-- A stage that splits such a text. -/
def overlappingSplit : Split := ⟨"split", ⟨"aaabaaaacaa", .literal⟩, some "aa", "piece"⟩

theorem splits_alike_overlapping :
    "aa" ≠ "" ∧ overlappingSplit.delimiter = some "aa" ∧
      overlappingSplit.source.render [] = .ok (.str "aaabaaaacaa") ∧
      Builtins.piecesOf "aa" "aaabaaaacaa" = ["", "ab", "", "c", ""] ∧
      ∃ parts, SplitsAlike "aa" "aaabaaaacaa" parts :=
  ⟨by decide, rfl, rfl, by decide +kernel, splits_alike (by decide) "aaabaaaacaa"⟩

end Connector
