import Connector.Proofs.Path.Steps
import Mathlib.Algebra.Group.Nat.Defs

/-!
# Paths as they are printed

A path is printed as a dollar sign and its segments, each behind a dot: its name, and its index in
brackets.  A name may hold closing brackets, dollar signs and stars; it may not hold what would end
it, and no blanks, which would be trimmed at the ends of the text.

* `Path.print` — the text of a path.
* `Path.Segment.Printable` — the segments that can be told from their text.
* `Path.Segment.ofPart_printed` — one segment is read back.
* **`Path.parse_print`** — a printed path is read back.
-/

namespace Connector

namespace Path

/-! ## Printing -/

/-- What stands in the brackets of an index. -/
def Index.printed : Index → List Char
  | .at i => (toString i).toList
  | .all => ['*']

/-- **A segment as it is printed**: its name, and its index in brackets if it has one. -/
def Segment.printed (s : Segment) : List Char :=
  s.name.toList ++ s.index.elim [] fun i => '[' :: (i.printed ++ [']'])

/-- **The text of a path.** -/
def print (path : Path) : String :=
  String.ofList ('$' :: (path.map Segment.printed).flatMap fun part => '.' :: part)

/-- **A segment that can be told from its text.**  Nothing in its name ends the name or is a blank,
its index fits into 64 bits, and there is something to it. -/
structure Segment.Printable (s : Segment) : Prop where
  plain : ∀ c ∈ s.name.toList, c ≠ '.' ∧ c ≠ '[' ∧ Text.isBlank c = false
  fits : ∀ i, s.index = some (.at i) → i < 2 ^ 64
  nonempty : s.index = none → s.name ≠ ""

/-! ## Numbers -/

/-- The digits of a number. -/
def Digits.ofNat (i : Nat) : Digits where
  chars := Nat.toDigits 10 i
  nonempty := Nat.toDigits_ne_nil
  decimal _ hc := Nat.isDigit_of_mem_toDigits (by decide : 0 < 10) (by decide) hc

lemma Index.printed_at (i : Nat) : (Index.at i).printed = (Digits.ofNat i).chars :=
  Text.toList_number i

/-- A number that fits is read back from its digits. -/
lemma readIndex?_ofNat {i : Nat} (h : i < 2 ^ 64) : readIndex? (Digits.ofNat i).chars = some i := by
  have value : (Digits.ofNat i).value = i := Nat.ofDigitChars_ten_toDigits
  rw [readIndex?_digits, Digits.index?, value, if_pos h]

/-! ## One segment -/

/-- No index holds a character that separates or closes. -/
lemma Index.not_mem_printed (i : Index) {c : Char} (h : c.isDigit = false) (hs : c ≠ '*') :
    c ∉ i.printed := by
  rcases i with i | _
  · rw [printed_at]
    exact (Digits.ofNat i).not_mem h
  · simpa [printed] using hs

lemma Index.not_isBlank (i : Index) : ∀ c ∈ i.printed, Text.isBlank c = false := by
  intro c hc
  rcases i with i | _
  · rw [printed_at] at hc
    refine (Step.item (Digits.ofNat i)).not_isBlank c ?_
    exact List.mem_cons_of_mem _ (List.mem_append_left _ hc)
  · rw [List.mem_singleton.1 hc]
    rfl

namespace Segment

variable {s : Segment}

/-- An index that fits is read back. -/
lemma Printable.index_read (h : s.Printable) {i : Index} (hi : s.index = some i) :
    (if i.printed = ['*'] then some Index.all else (readIndex? i.printed).map .at) = some i := by
  rcases i with i | _
  · have noStar : (Digits.ofNat i).chars ≠ ['*'] := by
      intro star
      exact (Digits.ofNat i).not_mem (c := '*') (by decide) (star ▸ List.mem_singleton_self _)
    rw [Index.printed_at, if_neg noStar, readIndex?_ofNat (h.fits i hi), Option.map_some]
  · rfl

/-- **A segment is read back from its part of the text.** -/
lemma ofPart_printed (h : s.Printable) : ofPart s.printed = s := by
  have named : '[' ∉ s.name.toList := fun hc => (h.plain _ hc).2.1 rfl
  obtain ⟨name, index⟩ := s
  cases index with
  | none => rw [printed, Option.elim_none, List.append_nil, ofPart_name named, String.ofList_toList]
  | some i =>
      have closing : ']' ∉ i.printed := i.not_mem_printed (by decide) (by decide)
      rw [printed, Option.elim_some, ofPart_bracket named closing, h.index_read rfl,
        String.ofList_toList]

lemma dot_not_mem_printed (h : s.Printable) : '.' ∉ s.printed := by
  have named : '.' ∉ s.name.toList := fun hc => (h.plain _ hc).1 rfl
  obtain ⟨name, index⟩ := s
  cases index with
  | none => simpa [printed] using named
  | some i =>
      have inner : '.' ∉ i.printed := i.not_mem_printed (by decide) (by decide)
      simp [printed, named, inner]

lemma not_isBlank_printed (h : s.Printable) : ∀ c ∈ s.printed, Text.isBlank c = false := by
  intro c hc
  rcases List.mem_append.1 hc with hc | hc
  · exact (h.plain c hc).2.2
  · cases hi : s.index with
    | none => simp [hi] at hc
    | some i =>
        have place : c = '[' ∨ c ∈ i.printed ∨ c = ']' := by simpa [hi] using hc
        rcases place with rfl | inner | rfl
        · rfl
        · exact i.not_isBlank c inner
        · rfl

/-- There is something to see of every segment. -/
lemma printed_ne_nil (h : s.Printable) : s.printed ≠ [] := by
  obtain ⟨name, index⟩ := s
  cases index with
  | none => simpa [printed] using h.nonempty rfl
  | some i => simp [printed]

end Segment

/-! ## All segments -/

variable {path : Path}

lemma trim_print (h : ∀ s ∈ path, s.Printable) : Text.trim (print path) = print path := by
  refine Text.trim_of_not_isBlank fun c hc => ?_
  rcases List.mem_cons.1 hc with rfl | hc
  · rfl
  · obtain ⟨part, hpart, hc⟩ := List.mem_flatMap.1 hc
    obtain ⟨s, hs, rfl⟩ := List.mem_map.1 hpart
    rcases List.mem_cons.1 hc with rfl | hc
    · rfl
    · exact Segment.not_isBlank_printed (h s hs) c hc

/-- **A printed path is read back**, segment by segment. -/
theorem parse_print (h : ∀ s ∈ path, s.Printable) : parse (print path) = path := by
  have dots : ∀ part ∈ path.map Segment.printed, '.' ∉ part :=
    List.forall_mem_map.2 fun s hs => Segment.dot_not_mem_printed (h s hs)
  have full : ∀ part ∈ path.map Segment.printed, (!part.isEmpty) = true :=
    List.forall_mem_map.2 fun s hs => by simpa using Segment.printed_ne_nil (h s hs)
  -- in front of the first dot there is nothing left, which is dropped with the empty parts
  have parts : ((path.map Segment.printed).flatMap fun part => '.' :: part).splitOn '.' =
      [] :: path.map Segment.printed := Text.splitOn_parts List.not_mem_nil dots
  have read : (path.map Segment.printed).map Segment.ofPart = path := by
    rw [List.map_map]
    exact (List.map_congr_left fun s hs => Segment.ofPart_printed (h s hs)).trans (List.map_id path)
  rw [parse, trim_print h, print, String.toList_ofList, dropRoot, Text.split_singleton, parts,
    List.filter_cons_of_neg (by simp), List.filter_eq_self.2 full, read]

/-- A path whose names hold what paths are written with. -/
def confusing : Path :=
  [⟨"a]", some (.at 18446744073709551615)⟩, ⟨"", some .all⟩, ⟨"$*]", none⟩]

theorem parse_print_confusing : (∀ s ∈ confusing, s.Printable) ∧
    print confusing = "$.a][18446744073709551615].[*].$*]" ∧
    parse "$.a][18446744073709551615].[*].$*]" = confusing := by
  have plain {cs : List Char} (h : cs.all fun c => c ≠ '.' ∧ c ≠ '[' ∧ Text.isBlank c = false) :
      ∀ c ∈ cs, c ≠ '.' ∧ c ≠ '[' ∧ Text.isBlank c = false :=
    fun c hc => of_decide_eq_true (List.all_eq_true.1 h c hc)
  have printable : ∀ s ∈ confusing, s.Printable := by
    simp only [confusing, List.forall_mem_cons]
    refine ⟨⟨plain (by decide), ?_, nofun⟩, ⟨plain (by decide), nofun, nofun⟩,
      ⟨plain (by decide), nofun, ?_⟩, nofun⟩
    · rintro i ⟨⟩
      decide
    · exact fun _ => by decide
  have printed : print confusing = "$.a][18446744073709551615].[*].$*]" := by decide +kernel
  exact ⟨printable, printed, printed ▸ parse_print printable⟩

end Path

end Connector
