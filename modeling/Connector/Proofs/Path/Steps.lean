import Connector.Builtins
import Connector.Proofs.Template.Around
import Connector.Proofs.Text.Cutting
import Mathlib.Algebra.Group.Nat.Defs
import Mathlib.Data.List.Chain

/-!
# Paths without wildcards

A path that is spelled as a dollar sign and steps, names behind dots and indexes in brackets.  Its
parts lie between the dots, and of the indexes of a part only the first is read: a further one
right behind an index is not heeded, and neither is an index of `2 ^ 64` or more.

* `Path.Step`, `Path.spell` — steps and the text of a path of steps.
* `Path.walk?`, `Path.destination` — one step after the other, up to one that does not apply.
* `Path.heeded` — the steps that are read; `heeded_eq_self_iff` — when these are all.
* `Path.parse_spell` — the segments of the text; `Path.select_spell` — what it selects.
* **`Path.jsonPath_spell`** — the value at the end of the steps that are heeded.
* `Path.jsonPath_spell_unheeded` — it need not be the value at the end of all steps.
-/

namespace Connector

namespace Path

/-! ## Parts of any text -/

/-- A part without an opening bracket is a name. -/
lemma Segment.ofPart_name {name : List Char} (h : '[' ∉ name) :
    Segment.ofPart name = ⟨String.ofList name, none⟩ := by
  have all : name.dropWhile (· ≠ '[') = [] :=
    List.dropWhile_eq_nil_iff.2 fun d hd => decide_eq_true fun same => h (same ▸ hd)
  rw [ofPart, all]

/-- What stands between the first brackets of a part is its index, whatever follows them. -/
lemma Segment.ofPart_bracket {name inner : List Char} (hn : '[' ∉ name) (hi : ']' ∉ inner)
    (behind : List Char) :
    Segment.ofPart (name ++ '[' :: (inner ++ ']' :: behind)) =
      ⟨String.ofList name, if inner = ['*'] then some .all else (readIndex? inner).map .at⟩ := by
  have closed : (inner ++ ']' :: behind).contains ']' = true := by simp
  rw [ofPart, Text.dropWhile_ne hn, Text.takeWhile_ne hn]
  simp only [closed, if_true]
  rw [Text.takeWhile_ne hi]

/-! ## Steps -/

/-- **A name that a step may spell**: some text without blanks, dots, brackets and stars. -/
structure Name where
  text : String
  nonempty : text ≠ ""
  plain : ∀ c ∈ text.toList, c ∉ ['.', '[', ']', '*'] ∧ Text.isBlank c = false

/-- **An index that a step may spell**: decimal digits, as many as there may be. -/
structure Digits where
  chars : List Char
  nonempty : chars ≠ []
  decimal : ∀ c ∈ chars, c.isDigit

/-- The number of digits. -/
def Digits.value (i : Digits) : Nat := Path.decimal i.chars

/-- **A step**: to a member of an object or to an element of an array. -/
inductive Step where
  | member (name : Name)
  | item (index : Digits)

namespace Step

/-- A step as it is spelled. -/
def spelled : Step → List Char
  | member name => '.' :: name.text.toList
  | item index => '[' :: index.chars ++ [']']

/-- Where a step leads, if it applies. -/
def take? : Step → Json → Option Json
  | member name, v => v.member? name.text
  | item index, v => v.item? index.value

/-- Whether a step is one to an element. -/
def IsItem : Step → Prop
  | member _ => False
  | item _ => True

end Step

/-- **The text of a path of steps.** -/
def spell (steps : List Step) : String := String.ofList ('$' :: steps.flatMap Step.spelled)

/-- Where steps lead one after the other, if all of them apply. -/
def walk? : List Step → Json → Option Json
  | [], v => some v
  | s :: rest, v => (s.take? v).bind (walk? rest)

/-- **The value at the end of steps**, or null as soon as one does not apply. -/
def destination (steps : List Step) (v : Json) : Json := (walk? steps v).getD .null

/-- A walk goes on from where its first part leads. -/
lemma walk?_append (steps more : List Step) (v : Json) :
    walk? (steps ++ more) v = (walk? steps v).bind (walk? more) := by
  induction steps generalizing v with
  | nil => rfl
  | cons s rest ih =>
      rw [List.cons_append, walk?, walk?, Option.bind_assoc]
      exact Option.bind_congr fun w _ => ih w

/-- **To append a step is to take it from where the others lead**; none applies to null. -/
lemma destination_append_singleton (steps : List Step) (s : Step) (v : Json) :
    destination (steps ++ [s]) v = (s.take? (destination steps v)).getD .null := by
  have last (w : Json) : walk? [s] w = s.take? w := by
    rw [walk?]
    cases s.take? w <;> rfl
  rw [destination, destination, walk?_append]
  cases walk? steps v with
  | none => cases s <;> rfl
  | some w => rw [Option.bind_some, last, Option.getD_some]

/-! ## Steps that are heeded -/

/-- **The steps that are read.**  An index is, unless it stands right `behind` another one or is too
large. -/
def heeded (behind : Bool) : List Step → List Step
  | [] => []
  | .member name :: rest => .member name :: heeded false rest
  | .item index :: rest =>
    if behind = false ∧ index.value < 2 ^ 64 then .item index :: heeded true rest
    else heeded true rest

/-- **Steps all of which are read**: no index is right behind another one, and none is too large. -/
structure Plain (steps : List Step) : Prop where
  apart : steps.IsChain fun s t => s.IsItem → ¬ t.IsItem
  small : ∀ index, .item index ∈ steps → index.value < 2 ^ 64

/-- Heeding starts anew at a name. -/
lemma heeded_append_member (behind : Bool) (steps : List Step) (name : Name) (rest : List Step) :
    heeded behind (steps ++ .member name :: rest) =
      heeded behind steps ++ heeded false (.member name :: rest) := by
  induction steps generalizing behind with
  | nil => rfl
  | cons s steps ih =>
      cases s with
      | member other => simp only [List.cons_append, heeded, ih]
      | item index =>
          simp only [List.cons_append, heeded, ih]
          split_ifs <;> rfl

/-- No more steps are heeded than there are. -/
lemma length_heeded_le (behind : Bool) (steps : List Step) :
    (heeded behind steps).length ≤ steps.length := by
  induction steps generalizing behind with
  | nil => exact Nat.le_refl 0
  | cons s rest ih =>
      have tail := ih true
      have anew := ih false
      cases s with
      | member name => simp only [heeded, List.length_cons]; omega
      | item index =>
          rw [heeded]
          split_ifs <;> simp only [List.length_cons] <;> omega

lemma plain_nil : Plain [] := ⟨.nil, nofun⟩

lemma plain_cons {s : Step} {rest : List Step} : Plain (s :: rest) ↔
    (∀ index, s = .item index → index.value < 2 ^ 64) ∧
      (s.IsItem → ∀ t ∈ rest.head?, ¬ t.IsItem) ∧ Plain rest := by
  constructor
  · rintro ⟨apart, small⟩
    obtain ⟨next, later⟩ := List.isChain_cons.1 apart
    exact ⟨fun index hi => small index (by simp [hi]), fun item t ht => next t ht item, later,
      fun index hi => small index (List.mem_cons_of_mem _ hi)⟩
  · rintro ⟨first, next, apart, small⟩
    refine ⟨List.isChain_cons.2 ⟨fun t ht item => next item t ht, apart⟩, fun index hi => ?_⟩
    rcases List.mem_cons.1 hi with hi | hi
    · exact first index hi.symm
    · exact small index hi

/-- Behind an index no index is heeded. -/
lemma heeded_eq_self (behind : Bool) (steps : List Step) : heeded behind steps = steps ↔
    (behind → ∀ t ∈ steps.head?, ¬ t.IsItem) ∧ Plain steps := by
  induction steps generalizing behind with
  | nil => simp [heeded, plain_nil]
  | cons s rest ih =>
      rw [plain_cons]
      cases s with
      | member name => simp [heeded, ih, Step.IsItem]
      | item index =>
          have shorter : heeded true rest ≠ .item index :: rest := by
            intro same
            have short := length_heeded_le true rest
            rw [same, List.length_cons] at short
            omega
          rw [heeded]
          split_ifs with h
          · obtain ⟨rfl, small⟩ := h
            have first : ∀ i, Step.item index = .item i → i.value < 2 ^ 64 := by
              rintro i ⟨⟩
              exact small
            simp [-Nat.reducePow, ih, Step.IsItem, first]
          · have dropped : behind = false → ¬ index.value < 2 ^ 64 := fun hb hi => h ⟨hb, hi⟩
            cases behind with
            | true => simp [shorter, Step.IsItem]
            | false => simpa [shorter, Step.IsItem] using fun small => absurd small (dropped rfl)

/-- **All steps are heeded** when no index stands right behind another one and none is too large. -/
lemma heeded_eq_self_iff {steps : List Step} : heeded false steps = steps ↔ Plain steps := by
  simp [heeded_eq_self]

/-! ## One part -/

/-- The characters of a name, if there is one. -/
def nameChars (name : Option Name) : List Char := (name.map (·.text.toList)).getD []

/-- The part of a path between two dots: a name, unless it is the first part, and indexes. -/
def part (name : Option Name) (indexes : List Digits) : List Char :=
  nameChars name ++ indexes.flatMap fun i => '[' :: i.chars ++ [']']

/-- The index that digits stand for, if it is not too large. -/
def Digits.index? (i : Digits) : Option Nat := if i.value < 2 ^ 64 then some i.value else none

/-- The segment of a part. -/
def segment (name : Option Name) (indexes : List Digits) : Segment :=
  ⟨(name.map (·.text)).getD "", (indexes.head?.bind Digits.index?).map .at⟩

/-- The steps of a part. -/
def partSteps (name : Option Name) (indexes : List Digits) : List Step :=
  name.toList.map .member ++ indexes.map .item

lemma Name.not_mem (n : Name) {c : Char} (h : c ∈ ['.', '[', ']', '*']) : c ∉ n.text.toList :=
  fun hc => (n.plain c hc).1 h

lemma Name.ne_star (n : Name) : n.text ≠ "*" := by
  intro h
  refine n.not_mem (c := '*') (by decide) ?_
  rw [h]
  decide

lemma Digits.not_mem (i : Digits) {c : Char} (h : c.isDigit = false) : c ∉ i.chars := by
  intro hc
  rw [i.decimal c hc] at h
  cases h

/-- An index is read from its digits, if it is small enough. -/
lemma readIndex?_digits (i : Digits) : readIndex? i.chars = i.index? := by
  have all : i.chars.all Char.isDigit = true := List.all_eq_true.2 i.decimal
  have read : i.chars ≠ [] ∧ i.chars.all Char.isDigit ∧ decimal i.chars < 2 ^ 64 ↔
      i.value < 2 ^ 64 := ⟨fun h => h.2.2, fun h => ⟨i.nonempty, all, h⟩⟩
  rw [readIndex?, Digits.index?]
  · exact if_congr read rfl rfl
  · intro rest signed
    exact i.not_mem (c := '+') (by decide) (signed ▸ List.mem_cons_self ..)

/-- **A part is read as its name and its first index.** -/
lemma ofPart_part (name : Option Name) (indexes : List Digits) :
    Segment.ofPart (part name indexes) = segment name indexes := by
  have plain : '[' ∉ nameChars name := by
    cases name with
    | none => exact List.not_mem_nil
    | some n => exact n.not_mem (by decide)
  have spelled : String.ofList (nameChars name) = (name.map (·.text)).getD "" := by
    cases name with
    | none => rfl
    | some n => exact String.ofList_toList
  cases indexes with
  | nil =>
      rw [part, List.flatMap_nil, List.append_nil, Segment.ofPart_name plain, spelled]
      rfl
  | cons i more =>
      have noStar : i.chars ≠ ['*'] := by
        intro h
        exact i.not_mem (c := '*') (by decide) (h ▸ List.mem_singleton_self _)
      have closing : ']' ∉ i.chars := i.not_mem (by decide)
      have shape : part name (i :: more) = nameChars name ++
          '[' :: (i.chars ++ ']' :: more.flatMap fun i => '[' :: i.chars ++ [']']) := by
        simp [part]
      rw [shape, Segment.ofPart_bracket plain closing, if_neg noStar, readIndex?_digits, spelled]
      rfl

/-! ## Reading -/

/-- What is left of a part that ends: its segment, unless there is nothing in it. -/
def closed (name : Option Name) (indexes : List Digits) : Path :=
  if (part name indexes).isEmpty then [] else [segment name indexes]

/-- The segments of steps behind a part that has been begun. -/
def segmentsFrom (name : Option Name) (indexes : List Digits) : List Step → Path
  | [] => closed name indexes
  | .member next :: rest => closed name indexes ++ segmentsFrom (some next) [] rest
  | .item i :: rest => segmentsFrom name (indexes ++ [i]) rest

lemma part_append_item (name : Option Name) (indexes : List Digits) (i : Digits) :
    part name indexes ++ Step.spelled (.item i) = part name (indexes ++ [i]) := by
  simp [part, Step.spelled]

/-- A part without text has no steps. -/
lemma steps_of_part_nil {name : Option Name} {indexes : List Digits} (h : part name indexes = []) :
    partSteps name indexes = [] := by
  obtain ⟨hn, hi⟩ := List.append_eq_nil_iff.1 h
  have unnamed : name = none := by
    cases name with
    | none => rfl
    | some n => exact absurd (String.toList_eq_nil_iff.1 hn) n.nonempty
  have bare : indexes = [] := by
    cases indexes with
    | nil => rfl
    | cons i more => cases hi
  rw [unnamed, bare]
  rfl

/-- The parts of a path are told apart by dots, since they have none. -/
lemma dot_not_mem_part (name : Option Name) (indexes : List Digits) : '.' ∉ part name indexes := by
  have plain : '.' ∉ nameChars name := by
    cases name with
    | none => exact List.not_mem_nil
    | some n => exact n.not_mem (by decide)
  have digits (i : Digits) : '.' ∉ i.chars := i.not_mem (by decide)
  simp [part, plain, digits]

/-- Cut at the dots, the text of steps is read part by part, by induction on the steps. -/
lemma parts_spelled (name : Option Name) (indexes : List Digits) (steps : List Step) :
    ((((part name indexes ++ steps.flatMap Step.spelled).splitOn '.').filter
      fun part => !part.isEmpty).map Segment.ofPart) = segmentsFrom name indexes steps := by
  have first (name : Option Name) (indexes : List Digits) :
      (([part name indexes].filter fun part => !part.isEmpty).map Segment.ofPart) =
        closed name indexes := by
    rw [closed, ← ofPart_part]
    cases (part name indexes).isEmpty.eq_false_or_eq_true with
    | inl empty => simp [empty]
    | inr full => simp [full]
  induction steps generalizing name indexes with
  | nil =>
      rw [List.flatMap_nil, List.append_nil,
        List.splitOn_eq_singleton (dot_not_mem_part name indexes), first, segmentsFrom]
  | cons s rest ih =>
      rw [List.flatMap_cons]
      cases s with
      | member next =>
          have begun : part (some next) [] = next.text.toList := List.append_nil _
          have later := ih (some next) []
          rw [begun] at later
          rw [Step.spelled, List.cons_append, List.splitOn_append_cons_self,
            List.splitOn_eq_singleton (dot_not_mem_part name indexes), List.filter_append,
            List.map_append, first, later, segmentsFrom]
      | item i => rw [← List.append_assoc, part_append_item, ih, segmentsFrom]

lemma Step.not_isBlank (s : Step) : ∀ c ∈ s.spelled, Text.isBlank c = false := by
  intro c hc
  cases s with
  | member name =>
      rcases List.mem_cons.1 hc with rfl | hc
      · rfl
      · exact (name.plain c hc).2
  | item i =>
      have place : c = '[' ∨ c ∈ i.chars ∨ c = ']' := by simpa [spelled] using hc
      rcases place with rfl | digit | rfl
      · rfl
      · have inName : Template.Token.continuesName c := by
          simp [Template.Token.continuesName, Char.isAlphanum, i.decimal c digit]
        exact Template.Token.not_isBlank_of_continuesName inName
      · rfl

/-- **The segments of the text of steps.** -/
lemma parse_spell (steps : List Step) : parse (spell steps) = segmentsFrom none [] steps := by
  have solid : ∀ c ∈ '$' :: steps.flatMap Step.spelled, Text.isBlank c = false := by
    intro c hc
    rcases List.mem_cons.1 hc with rfl | hc
    · rfl
    · obtain ⟨s, -, hc⟩ := List.mem_flatMap.1 hc
      exact s.not_isBlank c hc
  rw [parse, spell, Text.trim_of_not_isBlank solid, String.toList_ofList, dropRoot,
    Text.split_singleton]
  exact parts_spelled none [] steps

/-! ## Following -/

/-- What is reached without a wildcard: one value or none. -/
def Reached.single (v? : Option Json) : Reached := ⟨v?.toList, false⟩

lemma Reached.toList_flatMap (v? : Option Json) (next : Json → Option Json) :
    v?.toList.flatMap (fun v => (next v).toList) = (v?.bind next).toList := by
  cases v? with
  | none => rfl
  | some v => exact List.flatMap_singleton ..

/-- The name of a part leads where its step leads. -/
lemma named_segment (name : Option Name) (indexes : List Digits) (v : Json) :
    (segment name indexes).named v = (walk? (name.toList.map .member) v).toList := by
  cases name with
  | none => rfl
  | some n =>
      have step : walk? [.member n] v = v.member? n.text := by
        rw [walk?]
        exact Option.bind_fun_some _
      rw [Option.toList_some, List.map_singleton, step]
      exact (if_neg n.nonempty).trans (if_neg n.ne_star)

/-- Behind an index, no other one is heeded. -/
lemma heeded_items_behind (indexes : List Digits) : heeded true (indexes.map .item) = [] := by
  induction indexes with
  | nil => rfl
  | cons i more ih => rw [List.map_cons, heeded, if_neg (by simp), ih]

/-- The index of a part leads where the first of its indexes leads, if that one is heeded. -/
lemma indexed_segment (name : Option Name) (indexes : List Digits) (v : Json) :
    (segment name indexes).indexed v = (walk? (heeded false (indexes.map .item)) v).toList := by
  cases indexes with
  | nil => rfl
  | cons i more =>
      rw [List.map_cons, heeded, heeded_items_behind]
      by_cases small : i.value < 2 ^ 64
      · have step : walk? [.item i] v = v.item? i.value := by
          rw [walk?]
          exact Option.bind_fun_some _
        rw [if_pos ⟨rfl, small⟩, step]
        simp only [Segment.indexed, segment, List.head?_cons, Option.bind_some, Digits.index?,
          if_pos small, Option.map_some]
      · rw [if_neg fun h => small h.2]
        simp only [Segment.indexed, segment, List.head?_cons, Option.bind_some, Digits.index?,
          if_neg small, Option.map_none]
        rfl

/-- **A part leads where its steps that are heeded lead.** -/
lemma step_segment (name : Option Name) (indexes : List Digits) (v? : Option Json) :
    (Reached.single v?).step (segment name indexes) =
      Reached.single (v?.bind (walk? (heeded false (partSteps name indexes)))) := by
  have steps : heeded false (partSteps name indexes) =
      name.toList.map .member ++ heeded false (indexes.map .item) := by
    cases name <;> rfl
  have noStar : (segment name indexes).name ≠ "*" := by
    cases name with
    | none => exact fun h => absurd h (by decide : "" ≠ "*")
    | some n => exact n.ne_star
  have noAll : (segment name indexes).index ≠ some .all := by
    rw [segment]
    cases indexes.head?.bind Digits.index? <;> simp
  have values : (v?.toList.flatMap (segment name indexes).named).flatMap
      (segment name indexes).indexed =
        (v?.bind (walk? (heeded false (partSteps name indexes)))).toList := by
    have walked : walk? (heeded false (partSteps name indexes)) = fun v =>
        (walk? (name.toList.map .member) v).bind (walk? (heeded false (indexes.map .item))) := by
      funext v
      rw [steps, walk?_append]
    rw [funext (named_segment name indexes), funext (indexed_segment name indexes),
      Reached.toList_flatMap, Reached.toList_flatMap, Option.bind_assoc, walked]
  simp [Reached.step, Reached.single, values, noStar, noAll]

/-- The segments of a path lead where its steps that are heeded lead, by induction on the steps. -/
lemma foldl_segmentsFrom (name : Option Name) (indexes : List Digits) (steps : List Step)
    (v? : Option Json) :
    (segmentsFrom name indexes steps).foldl Reached.step (Reached.single v?) =
      Reached.single (v?.bind (walk? (heeded false (partSteps name indexes ++ steps)))) := by
  have ended (name : Option Name) (indexes : List Digits) (v? : Option Json) :
      (closed name indexes).foldl Reached.step (Reached.single v?) =
        Reached.single (v?.bind (walk? (heeded false (partSteps name indexes)))) := by
    rw [closed]
    split_ifs with h
    · have nothing : partSteps name indexes = [] := steps_of_part_nil (List.isEmpty_iff.1 h)
      rw [nothing]
      exact congrArg Reached.single (Option.bind_fun_some _).symm
    · exact step_segment name indexes v?
  induction steps generalizing name indexes v? with
  | nil => rw [segmentsFrom, List.append_nil, ended]
  | cons s rest ih =>
      cases s with
      | member next =>
          have walked : walk? (heeded false (partSteps name indexes ++ .member next :: rest)) =
              fun v => (walk? (heeded false (partSteps name indexes)) v).bind
                (walk? (heeded false (.member next :: rest))) := by
            funext v
            rw [heeded_append_member, walk?_append]
          rw [segmentsFrom, List.foldl_append, ended, ih, walked, Option.bind_assoc]
          rfl
      | item i =>
          have moved : partSteps name (indexes ++ [i]) ++ rest =
              partSteps name indexes ++ .item i :: rest := by simp [partSteps]
          rw [segmentsFrom, ih, moved]

/-- **What the text of steps selects.** -/
lemma select_spell (steps : List Step) (root : Json) :
    select (parse (spell steps)) root = destination (heeded false steps) root := by
  have followed : follow (parse (spell steps)) root =
      Reached.single (walk? (heeded false steps) root) := by
    rw [parse_spell]
    exact foldl_segmentsFrom none [] steps (some root)
  rw [select, followed, destination, Reached.value, Reached.single, if_neg Bool.false_ne_true]
  cases walk? (heeded false steps) root <;> rfl

open Builtins (answer jsonPath opened)

/-- What a path comes to is found by the steps of it that are heeded. -/
lemma jsonPath_heeded (root : Json) (steps : List Step) : jsonPath [root, .str (spell steps)] =
    .ok (answer (destination (heeded false steps) (opened root))) := by
  rw [← select_spell]
  rfl

/-- **The value at a path of steps.**  It is the one at the end of the steps that are heeded, which
are all of them exactly when no index stands right behind another one and none is `2 ^ 64` or more.
In such a path a step at the end is taken from the value at the path before it. -/
theorem jsonPath_spell (root : Json) (steps : List Step) :
    jsonPath [root, .str (spell steps)] =
        .ok (answer (destination (heeded false steps) (opened root))) ∧
      (heeded false steps = steps ↔ Plain steps) ∧
      ∀ s, Plain (steps ++ [s]) → jsonPath [root, .str (spell (steps ++ [s]))] =
        .ok (answer ((s.take? (destination steps (opened root))).getD .null)) := by
  refine ⟨jsonPath_heeded root steps, heeded_eq_self_iff, fun s plain => ?_⟩
  rw [jsonPath_heeded, heeded_eq_self_iff.2 plain, destination_append_singleton]

/-- An array inside another one. -/
def nested : Json := .arr [.arr [.bool false, .bool true]]

def Digits.zero : Digits := ⟨['0'], List.cons_ne_nil _ _, List.forall_mem_singleton.2 rfl⟩

def Digits.one : Digits := ⟨['1'], List.cons_ne_nil _ _, List.forall_mem_singleton.2 rfl⟩

/-- The digits of `2 ^ 64`. -/
def Digits.tooLarge : Digits :=
  ⟨"18446744073709551616".toList, List.cons_ne_nil _ _, List.all_eq_true.1 rfl⟩

/-- **A second index is not heeded, and neither is one that is too large**: there is a value at
these paths that is not the one at the end of their steps. -/
theorem jsonPath_spell_unheeded :
    (spell [.item .zero, .item .one] = "$[0][1]" ∧
      jsonPath [nested, .str "$[0][1]"] = .ok (answer (.arr [.bool false, .bool true])) ∧
      jsonPath [nested, .str "$[0][1]"] ≠
        .ok (answer (destination [.item .zero, .item .one] nested))) ∧
    spell [.item .tooLarge] = "$[18446744073709551616]" ∧
      jsonPath [nested, .str "$[18446744073709551616]"] = .ok (answer nested) ∧
      jsonPath [nested, .str "$[18446744073709551616]"] ≠
        .ok (answer (destination [.item .tooLarge] nested)) := by
  have pair : spell [.item .zero, .item .one] = "$[0][1]" := by decide +kernel
  have large : spell [.item .tooLarge] = "$[18446744073709551616]" := by decide +kernel
  have first : jsonPath [nested, .str "$[0][1]"] =
      .ok (answer (.arr [.bool false, .bool true])) := by
    rw [← pair, jsonPath_heeded]
    rfl
  have all : jsonPath [nested, .str "$[18446744073709551616]"] = .ok (answer nested) := by
    rw [← large, jsonPath_heeded]
    rfl
  refine ⟨⟨pair, first, ?_⟩, large, all, ?_⟩
  · have second : destination [.item .zero, .item .one] nested = .bool true := rfl
    rw [first, second]
    nofun
  · have missing : destination [.item .tooLarge] nested = .null := rfl
    rw [all, missing]
    nofun

end Path

end Connector
