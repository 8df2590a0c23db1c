import Connector.Text.Blank
import Connector.Text.Split
import Mathlib.Data.List.Basic
import Mathlib.Data.List.TakeWhile
import Mathlib.Tactic.Common

/-!
# Texts around one character

Paths are cut at dots, names of functions and of jobs at their last dot or hash sign, credentials at
their first colon.  Where a character may stand in one part only, the parts are determined by the
text.

* `Text.split_singleton` — cutting at one character is `List.splitOn`.
* `Text.splitOn_parts`, `Text.splitOn_last` — what parts behind a character are cut into.
* `Text.append_cons_first`, `Text.append_cons_last` — a text has one first and one last place of a
  character.
* `Text.trim_of_not_isBlank` — a text without blanks is trimmed to itself.
* `Text.not_mem_number`, `Text.number_injective` — a number is written in digits of its own.
-/

namespace Connector

namespace Text

/-! ## Blanks -/

lemma dropWhile_isBlank {cs : List Char} (h : ∀ c ∈ cs, isBlank c = false) :
    cs.dropWhile isBlank = cs := by
  cases cs with
  | nil => rfl
  | cons c rest => rw [List.dropWhile_cons_of_neg (by simp [h c])]

/-- Nothing is trimmed from a text without blanks. -/
lemma trim_of_not_isBlank {cs : List Char} (h : ∀ c ∈ cs, isBlank c = false) :
    trim (String.ofList cs) = String.ofList cs := by
  have back : ∀ c ∈ cs.reverse, isBlank c = false := fun c hc => h c (List.mem_reverse.1 hc)
  rw [trim, String.toList_ofList, dropWhile_isBlank h, dropEndBlanks, dropWhile_isBlank back,
    List.reverse_reverse]

/-! ## Cutting at every place -/

lemma pieces_singleton {c : Char} {piece : List Char} (h : c ∉ piece) (cs : List Char) :
    pieces [c] none 0 piece cs = (piece.reverse ++ cs).splitOn c := by
  induction cs generalizing piece with
  | nil =>
      have absent : c ∉ piece.reverse := mt List.mem_reverse.1 h
      rw [pieces, List.append_nil, List.splitOn_eq_singleton absent]
  | cons d rest ih =>
      have absent : c ∉ piece.reverse := mt List.mem_reverse.1 h
      by_cases hd : c = d
      · subst hd
        rw [List.splitOn_append_cons_self, List.splitOn_eq_singleton absent, List.singleton_append]
        simpa [pieces] using ih List.not_mem_nil
      · have next : c ∉ d :: piece := by simp [hd, h]
        simpa [pieces, hd] using ih next

/-- **To cut at one character** is to split there. -/
lemma split_singleton (c : Char) (cs : List Char) : split [c] none cs = cs.splitOn c :=
  pieces_singleton List.not_mem_nil cs

/-- **Parts behind a character are cut apart where it stands**, by induction on the parts. -/
lemma splitOn_parts {c : Char} {first : List Char} {parts : List (List Char)} (hf : c ∉ first)
    (hp : ∀ part ∈ parts, c ∉ part) :
    (first ++ parts.flatMap fun part => c :: part).splitOn c = first :: parts := by
  induction parts generalizing first with
  | nil => rw [List.flatMap_nil, List.append_nil, List.splitOn_eq_singleton hf]
  | cons part rest ih =>
      obtain ⟨here, later⟩ := List.forall_mem_cons.1 hp
      rw [List.flatMap_cons, List.cons_append, List.splitOn_append_cons_self,
        List.splitOn_eq_singleton hf, ih here later, List.singleton_append]

/-- What is behind the last place is cut off as it is. -/
lemma splitOn_last {c : Char} {back : List Char} (h : c ∉ back) (front : List Char) :
    (front ++ c :: back).splitOn c = front.splitOn c ++ [back] := by
  rw [List.splitOn_append_cons_self, List.splitOn_eq_singleton h]

/-! ## The first place and the last -/

section

variable {c : Char} {front back front' back' : List Char}

lemma takeWhile_ne (h : c ∉ front) (back : List Char) :
    (front ++ c :: back).takeWhile (· ≠ c) = front := by
  have all : ∀ d ∈ front, decide (d ≠ c) = true :=
    fun d hd => decide_eq_true fun same => h (same ▸ hd)
  rw [List.takeWhile_append_of_pos all, List.takeWhile_cons_of_neg (by simp), List.append_nil]

lemma dropWhile_ne (h : c ∉ front) (back : List Char) :
    (front ++ c :: back).dropWhile (· ≠ c) = c :: back := by
  have all : ∀ d ∈ front, decide (d ≠ c) = true :=
    fun d hd => decide_eq_true fun same => h (same ▸ hd)
  rw [List.dropWhile_append_of_pos all, List.dropWhile_cons_of_neg (by simp)]

/-- **A text has one first place of a character.** -/
lemma append_cons_first (h : c ∉ front) (h' : c ∉ front')
    (same : front ++ c :: back = front' ++ c :: back') : front = front' ∧ back = back' := by
  have fronts : front = front' := by
    rw [← takeWhile_ne h back, same, takeWhile_ne h']
  subst fronts
  exact ⟨rfl, (List.cons.inj (List.append_cancel_left same)).2⟩

/-- **A text has one last place of a character.** -/
lemma append_cons_last (h : c ∉ back) (h' : c ∉ back')
    (same : front ++ c :: back = front' ++ c :: back') : front = front' ∧ back = back' := by
  have reversed : back.reverse ++ c :: front.reverse = back'.reverse ++ c :: front'.reverse := by
    simpa using congrArg List.reverse same
  obtain ⟨backs, fronts⟩ := append_cons_first (by simpa using h) (by simpa using h') reversed
  exact ⟨List.reverse_injective fronts, List.reverse_injective backs⟩

/-- Where there is a place there is a last one. -/
lemma exists_last {cs : List Char} (h : c ∈ cs) :
    ∃ front back, cs = front ++ c :: back ∧ c ∉ back := by
  obtain ⟨back, front, split, absent⟩ := List.eq_append_cons_of_mem (List.mem_reverse.2 h)
  refine ⟨front.reverse, back.reverse, ?_, mt List.mem_reverse.1 absent⟩
  rw [← List.reverse_reverse cs, split]
  simp

end

/-! ## Numbers -/

lemma toList_number (n : Nat) : (toString n).toList = Nat.toDigits 10 n := Nat.toList_repr

/-- What separates parts is in no number. -/
lemma not_mem_number {c : Char} (h : c.isDigit = false) (n : Nat) : c ∉ (toString n).toList := by
  intro hc
  rw [toList_number] at hc
  exact Bool.false_ne_true (h.symm.trans (Nat.isDigit_of_mem_toDigits (by decide) (by decide) hc))

lemma number_injective {n n' : Nat} (h : (toString n).toList = (toString n').toList) : n = n' := by
  rw [toList_number, toList_number] at h
  rw [← Nat.ofDigitChars_ten_toDigits (n := n), h, Nat.ofDigitChars_ten_toDigits]

end Text

end Connector
