import Connector.Regex.Parser
import Mathlib.Data.List.Infix

/-!
# A closing parenthesis behind a pattern

Readers that are given a text and the same text with a closing parenthesis behind it do the same, up
to the end of the text: no reader looks further ahead than it has to.  There are two exceptions.  A
comment swallows the parenthesis, and the parenthesis may complete what was cut off at the end of
the text, and is consumed.

* `Trailed` — a text with a closing parenthesis behind it; `Agree` — what comes of reading both.
* `Reads` — a reader that does the same in both; `Reads.skip`, `Reads.bind` and the like put readers
  together.
-/

namespace Connector.Regex

/-! ## Both texts -/

/-- **The second text is the first one with a closing parenthesis behind it**, or both have come to
their ends because a comment has swallowed the parenthesis. -/
inductive Trailed : List Char → List Char → Prop where
  | seen (cs : List Char) : Trailed cs (cs ++ [')'])
  | overlooked : Trailed [] []

namespace Trailed

variable {cs cs' : List Char}

/-- Both texts are at their ends, the parenthesis alone is left, or both begin with the same
character. -/
lemma cases_head (h : Trailed cs cs') :
    (cs = [] ∧ cs' = []) ∨ (cs = [] ∧ cs' = [')']) ∨
      ∃ c rest, cs = c :: rest ∧ cs' = c :: (rest ++ [')']) := by
  cases h with
  | overlooked => exact Or.inl ⟨rfl, rfl⟩
  | seen =>
      cases cs with
      | nil => exact Or.inr (Or.inl ⟨rfl, rfl⟩)
      | cons c rest => exact Or.inr (Or.inr ⟨c, rest, rfl, rfl⟩)

/-- The second text is longer by no more than the parenthesis. -/
lemma length_le (h : Trailed cs cs') : cs'.length ≤ cs.length + 1 := by
  cases h <;> simp

end Trailed

/-- What is ignored is skipped in both texts; a comment may take the parenthesis with it. -/
lemma skipIgnored_trailed (inComment : Bool) (cs : List Char) :
    Trailed (skipIgnored inComment cs) (skipIgnored inComment (cs ++ [')'])) := by
  induction cs generalizing inComment with
  | nil =>
      cases inComment with
      | true => exact .overlooked
      | false => exact .seen []
  | cons c rest ih =>
      simp only [skipIgnored, List.cons_append]
      split_ifs
      · exact ih _
      · exact ih _
      · exact ih _
      · exact .seen (c :: rest)

lemma Trailed.skip {cs cs' : List Char} (f : Flags) (h : Trailed cs cs') :
    Trailed (f.skip cs) (f.skip cs') := by
  simp only [Flags.skip]
  split_ifs
  · cases h with
    | seen => exact skipIgnored_trailed false cs
    | overlooked => exact .overlooked
  · exact h

lemma length_skipIgnored_le (inComment : Bool) (cs : List Char) :
    (skipIgnored inComment cs).length ≤ cs.length := by
  induction cs generalizing inComment with
  | nil => exact le_rfl
  | cons c rest ih =>
      simp only [skipIgnored]
      split_ifs
      · exact (ih _).trans (Nat.le_succ _)
      · exact (ih _).trans (Nat.le_succ _)
      · exact (ih _).trans (Nat.le_succ _)
      · exact le_rfl

/-- To skip what is ignored only consumes. -/
lemma length_skip_le (f : Flags) (cs : List Char) : (f.skip cs).length ≤ cs.length := by
  rw [Flags.skip]
  split
  · exact length_skipIgnored_le false cs
  · exact le_rfl

lemma skip_nil (f : Flags) : f.skip [] = [] := by
  rw [Flags.skip]
  split <;> rfl

/-! ## What comes of both -/

/-- **What comes of reading both texts**: the same, with so much at most left of the first one; no
reading of either; or a reading of the second one alone, which the parenthesis has completed. -/
inductive Agree {α : Type} (n : Nat) : Option (α × List Char) → Option (α × List Char) → Prop where
  | read (a : α) {rest rest' : List Char} (h : Trailed rest rest') (hl : rest.length ≤ n) :
      Agree n (some (a, rest)) (some (a, rest'))
  | failed : Agree n none none
  | completed (a : α) : Agree n none (some (a, []))

/-- **Reading at the end of a text**: there is nothing to read, or nothing is left. -/
def Spent {α : Type} (x : Option (α × List Char)) : Prop := x = none ∨ ∃ a, x = some (a, [])

namespace Agree

variable {α β : Type} {n m : Nat} {x y : Option (α × List Char)}

lemma mono (h : Agree n x y) (hn : n ≤ m) : Agree m x y := by
  cases h with
  | read a h hl => exact .read a h (hl.trans hn)
  | failed => exact .failed
  | completed a => exact .completed a

lemma length_le {a : α} {rest : List Char} (h : Agree n (some (a, rest)) y) : rest.length ≤ n := by
  cases h
  assumption

/-- Where the first text cannot be read, the second one is at its end. -/
lemma none_iff_spent : Agree n none y ↔ Spent y := by
  constructor
  · intro h
    cases h with
    | failed => exact Or.inl rfl
    | completed a => exact Or.inr ⟨a, rfl⟩
  · rintro (rfl | ⟨a, rfl⟩)
    · exact .failed
    · exact .completed a

/-- What a reader comes to where both texts have come to their ends. -/
lemma spent (h : Agree n x x) : Spent x := by
  rcases x with _ | ⟨a, rest⟩
  · exact Or.inl rfl
  · refine Or.inr ⟨a, ?_⟩
    cases h with
    | read _ h =>
        rcases h.cases_head with ⟨rfl, -⟩ | ⟨rfl, -⟩ | ⟨c, rest, rfl, grown⟩
        · rfl
        · rfl
        · simp at grown

/-- Readers that always read. -/
lemma of_some {r r' : α × List Char} (h : Agree n (some r) (some r')) :
    r'.1 = r.1 ∧ Trailed r.2 r'.2 ∧ r.2.length ≤ n := by
  cases h with
  | read a h hl => exact ⟨rfl, h, hl⟩

/-- Two ways to go on. -/
lemma bind_both {k k' : α × List Char → Option (β × List Char)} (h : Agree n x y)
    (hk : ∀ a {rest rest' : List Char}, Trailed rest rest' → rest.length ≤ n →
      Agree n (k (a, rest)) (k' (a, rest')))
    (ends : ∀ a, Spent (k' (a, []))) :
    Agree n (x.bind k) (y.bind k') := by
  cases h with
  | read a h hl => exact hk a h hl
  | failed => exact .failed
  | completed a => exact none_iff_spent.mpr (ends a)

/-- What goes on alike behind the same is alike. -/
lemma bind {k : α × List Char → Option (β × List Char)} (h : Agree n x y)
    (hk : ∀ a {rest rest' : List Char}, Trailed rest rest' → rest.length ≤ n →
      Agree n (k (a, rest)) (k (a, rest'))) : Agree n (x.bind k) (y.bind k) :=
  h.bind_both hk fun a => (hk a .overlooked (Nat.zero_le n)).spent

/-- What is made of what was read does not matter. -/
lemma map {g : α → β} (h : Agree n x y) :
    Agree n (x.map fun r => (g r.1, r.2)) (y.map fun r => (g r.1, r.2)) := by
  cases h with
  | read a h hl => exact .read (g a) h hl
  | failed => exact .failed
  | completed a => exact .completed (g a)

/-- Where reading has come to, something may be wrong with what was read. -/
lemma check (o : Option β) (g : β → α) {rest rest' : List Char} (h : Trailed rest rest')
    (hl : rest.length ≤ n) :
    Agree n (o.map fun b => (g b, rest)) (o.map fun b => (g b, rest')) := by
  cases o with
  | none => exact .failed
  | some b => exact .read (g b) h hl

end Agree

/-- **A reader that does the same in both texts.** -/
structure Reads {α : Type} (g : List Char → Option (α × List Char)) : Prop where
  agree : ∀ {cs cs' : List Char}, Trailed cs cs' → Agree cs.length (g cs) (g cs')

namespace Reads

variable {α β : Type} {g : List Char → Option (α × List Char)}

/-- A reader only consumes. -/
lemma length_le (h : Reads g) {cs rest : List Char} {a : α} (read : g cs = some (a, rest)) :
    rest.length ≤ cs.length :=
  (read ▸ h.agree (.seen cs)).length_le

lemma fail : Reads fun _ => (none : Option (α × List Char)) := ⟨fun _ => .failed⟩

lemma done (a : α) : Reads fun cs => some (a, cs) := ⟨fun h => .read a h le_rfl⟩

/-- Something may be wrong with what was read before. -/
lemma check (o : Option β) (k : β → α) : Reads fun cs => o.map fun b => (k b, cs) :=
  ⟨fun h => .check o k h le_rfl⟩

/-- Something that has nothing to do with the text decides how to go on. -/
lemma given (o : Option β) {k : β → List Char → Option (α × List Char)} (h : ∀ b, Reads (k b)) :
    Reads fun cs => o.bind fun b => k b cs := by
  cases o with
  | none => exact fail
  | some b => exact h b

/-- What is ignored may be skipped first. -/
lemma skip (f : Flags) (h : Reads g) : Reads fun cs => g (f.skip cs) :=
  ⟨fun trailed => (h.agree (trailed.skip f)).mono (length_skip_le f _)⟩

lemma bind {k : α × List Char → Option (β × List Char)} (h : Reads g)
    (hk : ∀ a, Reads fun rest => k (a, rest)) : Reads fun cs => (g cs).bind k :=
  ⟨fun trailed => (h.agree trailed).bind fun a _ _ later shorter =>
    ((hk a).agree later).mono shorter⟩

lemma map {f : α → β} (h : Reads g) : Reads fun cs => (g cs).map fun r => (f r.1, r.2) :=
  ⟨fun trailed => (h.agree trailed).map⟩

/-- A reader that wants more. -/
lemma head (hnil : g [] = none) (h : ∀ c, Reads fun rest => g (c :: rest)) : Reads g := by
  refine ⟨fun trailed => ?_⟩
  rcases trailed.cases_head with ⟨rfl, rfl⟩ | ⟨rfl, rfl⟩ | ⟨c, rest, rfl, rfl⟩
  · rw [hnil]
    exact .failed
  · rw [hnil]
    exact Agree.none_iff_spent.mpr ((h ')').agree .overlooked).spent
  · exact ((h c).agree (.seen rest)).mono (Nat.le_succ _)

/-- A reader that looks for one character. -/
lemma peek {d : Char} (hd : d ≠ ')') {other : List Char → Option (α × List Char)}
    (there : Reads fun rest => g (d :: rest)) (ho : Reads other)
    (same : ∀ cs, cs.head? ≠ some d → g cs = other cs) : Reads g := by
  refine ⟨fun trailed => ?_⟩
  rcases trailed.cases_head with ⟨rfl, rfl⟩ | ⟨rfl, rfl⟩ | ⟨c, rest, rfl, rfl⟩
  · rw [same [] (by simp)]
    exact ho.agree .overlooked
  · rw [same [] (by simp), same [')'] (by simpa using hd.symm)]
    exact ho.agree (.seen [])
  · by_cases hc : c = d
    · subst hc
      exact (there.agree (.seen rest)).mono (Nat.le_succ _)
    · rw [same (c :: rest) (by simpa using hc), same (c :: (rest ++ [')'])) (by simpa using hc)]
      exact ho.agree (.seen (c :: rest))

end Reads

end Connector.Regex
