import Connector.Proofs.Regex.Classes

/-!
# A closing parenthesis behind alternatives

* `readOpening?_reads`, `readRepetition?_reads`, `readPrimitive?_agree` — the parts of alternatives,
  with and without a closing parenthesis behind the text.
* `told` — what the reader of alternatives has come to.
* **`readBranches?_agree`** — the reader of alternatives, which calls all the others.
* `readBranches?_fuel` — any fuel that is enough for a text gives the same alternatives.
-/

namespace Connector.Regex

/-! ## What opens a group -/

/-- What goes up to a character is read alike, unless the character is the parenthesis. -/
lemma readUpTo?_reads {stop : Char} (hs : stop ≠ ')') : Reads (readUpTo? stop) := by
  refine ⟨fun {cs cs'} h => ?_⟩
  cases h with
  | overlooked => exact .failed
  | seen =>
      rw [readUpTo?_append hs]
      rcases found : readUpTo? stop cs with _ | ⟨name, rest⟩
      · exact .failed
      · exact .read name (.seen rest) (length_readUpTo?_le found)

/-- The name of a group is read alike, up to its angle bracket. -/
lemma readGroupName?_reads (names : List String) : Reads (readGroupName? names) := by
  refine (readUpTo?_reads (by decide)).bind fun name => ?_
  cases name with
  | nil => exact Reads.fail
  | cons c more =>
      dsimp only
      split_ifs
      · exact Reads.done _
      · exact Reads.fail

/-- Flags are read alike; where none end them, the parenthesis does. -/
lemma readFlags?_agree (f : Flags) (on : Bool) (seen cs : List Char) :
    Agree cs.length (readFlags? f on seen cs) (readFlags? f on seen (cs ++ [')'])) := by
  induction cs generalizing f on seen with
  | nil =>
      simp only [readFlags?, List.nil_append, or_true, if_true]
      split_ifs
      · exact .failed
      · exact .completed _
  | cons c rest ih =>
      simp only [readFlags?, List.cons_append]
      split_ifs
      · exact .failed
      · exact .read _ (.seen rest) (Nat.le_succ _)
      · exact .failed
      · exact (ih f false (c :: seen)).mono (Nat.le_succ _)
      · cases f.set? c on with
        | none => exact .failed
        | some g => exact (ih g on (c :: seen)).mono (Nat.le_succ _)

lemma flagsOpening?_reads (f : Flags) : Reads (flagsOpening? f) := by
  have flags : Reads (readFlags? f true []) := by
    refine ⟨fun {cs cs'} h => ?_⟩
    cases h with
    | overlooked => exact .failed
    | seen => exact readFlags?_agree f true [] cs
  refine flags.bind fun (g, stop, bare) => ?_
  dsimp only
  split_ifs
  · exact Reads.done _
  · exact Reads.fail
  · exact Reads.done _

lemma nameOpening?_reads (names : List String) : Reads (nameOpening? names) :=
  (readGroupName?_reads names).map

/-- What a question mark behind an opening parenthesis begins is read alike. -/
lemma specialOpening?_reads (f : Flags) (names : List String) :
    Reads (specialOpening? f names) := by
  -- `P` is no flag, so that only a name may be behind it
  have named : Reads fun rest => specialOpening? f names ('P' :: rest) := by
    refine Reads.peek (d := '<') (by decide) (nameOpening?_reads names) Reads.fail
      fun cs other => ?_
    rw [specialOpening?]
    · rfl
    · rintro rest ⟨⟩
    · rintro rest ⟨⟩
      exact other rfl
  have lettered : Reads fun cs =>
      if cs.head? = some 'P' then specialOpening? f names cs else flagsOpening? f cs :=
    Reads.peek (d := 'P') (by decide) named (flagsOpening?_reads f) fun cs other => if_neg other
  refine Reads.peek (d := '<') (by decide) (nameOpening?_reads names) lettered fun cs other => ?_
  split
  · rfl
  · rename_i plain
    rw [specialOpening?]
    · rintro rest rfl
      exact other rfl
    · rintro rest rfl
      exact plain rfl

/-- The opening of a group is read alike. -/
lemma readOpening?_reads (f : Flags) (names : List String) : Reads (readOpening? f names) := by
  refine Reads.peek (d := '?') (by decide) (specialOpening?_reads f names)
    (Reads.done Opening.plain) fun cs other => ?_
  rw [readOpening?]
  rintro rest rfl
  exact other rfl

/-! ## Repetitions -/

lemma Trailed.dropBlanks {cs cs' : List Char} (h : Trailed cs cs') :
    Trailed (cs.dropWhile Text.isBlank) (cs'.dropWhile Text.isBlank) := by
  cases h with
  | overlooked => exact .overlooked
  | seen =>
      rw [List.dropWhile_append]
      split
      · rename_i blank
        rw [List.isEmpty_iff.mp blank]
        exact .seen []
      · exact .seen _

lemma length_dropBlanks_le (cs : List Char) : (cs.dropWhile Text.isBlank).length ≤ cs.length :=
  (List.dropWhile_suffix Text.isBlank).length_le

lemma readBound?_reads (f : Flags) : Reads (readBound? f) := by
  have digits : Reads fun cs =>
      some (readWhile f Char.isDigit cs.length (cs.dropWhile Text.isBlank)) :=
    ⟨fun {cs cs'} h => (readWhile_agree f (by decide) h.dropBlanks (length_dropBlanks_le cs)
      (length_dropBlanks_le cs')).mono (length_dropBlanks_le cs)⟩
  refine digits.bind (k := fun r =>
    (boundOf? r.1).map fun n => (n, f.skip (r.2.dropWhile Text.isBlank))) fun ds => ?_
  refine ⟨fun {cs cs'} h => ?_⟩
  exact .check (boundOf? ds) id (h.dropBlanks.skip f)
    ((length_skip_le f _).trans (length_dropBlanks_le cs))

lemma closeBounds?_reads (f : Flags) (least : Nat) (most : Option Nat) :
    Reads (closeBounds? f least most) := by
  refine Reads.peek (d := '\x7d') (by decide) ?_ Reads.fail fun cs other => ?_
  · simp only [closeBounds?]
    split_ifs
    · exact (Reads.done _).skip f
    · exact Reads.fail
  · rw [closeBounds?]
    rintro rest rfl
    exact other rfl

lemma upperBound?_reads (f : Flags) (least : Nat) : Reads (upperBound? f least) := by
  have bounded : Reads fun cs => (readBound? f cs).bind fun r =>
      closeBounds? f least (some r.1) r.2 :=
    (readBound?_reads f).bind fun most => closeBounds?_reads f least (some most)
  refine Reads.peek (d := '\x7d') (by decide) ?_ bounded fun cs other => ?_
  · simp only [upperBound?, closeBounds?]
    split_ifs
    · exact (Reads.done _).skip f
    · exact Reads.fail
  · rw [upperBound?]
    · rfl
    · rintro rest rfl
      exact other rfl

lemma boundsBehind?_reads (f : Flags) (least : Nat) : Reads (boundsBehind? f least) := by
  refine Reads.peek (d := ',') (by decide) ((upperBound?_reads f least).skip f)
    (closeBounds?_reads f least (some least)) fun cs other => ?_
  rw [boundsBehind?]
  rintro rest rfl
  exact other rfl

/-- The bounds of a repetition are read alike. -/
lemma readBounds?_reads (f : Flags) : Reads (readBounds? f) :=
  ((readBound?_reads f).skip f).bind fun least => boundsBehind?_reads f least

/-- A sign of repetition is read alike. -/
lemma readRepetition?_reads (f : Flags) (c : Char) : Reads (readRepetition? f c) := by
  unfold readRepetition?
  split_ifs
  · exact Reads.done _
  · exact Reads.done _
  · exact Reads.done _
  · exact readBounds?_reads f

/-- The closing parenthesis gives no bounds. -/
lemma readBounds?_closing (f : Flags) {cs : List Char} (h : f.skip cs = [')']) :
    readBounds? f cs = none := by
  simp [readBounds?, h, readBound?, readWhile, boundOf?, Text.isBlank]

/-- A repetition is lazy in both texts or in neither. -/
lemma Trailed.laziness {cs cs' : List Char} (h : Trailed cs cs') :
    (readLaziness cs').1 = (readLaziness cs).1 ∧
      Trailed (readLaziness cs).2 (readLaziness cs').2 := by
  rcases h.cases_head with ⟨rfl, rfl⟩ | ⟨rfl, rfl⟩ | ⟨c, rest, rfl, rfl⟩
  · exact ⟨rfl, h⟩
  · exact ⟨rfl, h⟩
  · by_cases lazy : c = '?'
    · subst lazy
      exact ⟨rfl, .seen rest⟩
    · have eager (tail : List Char) : readLaziness (c :: tail) = (false, c :: tail) := by
        rw [readLaziness]
        rintro rest ⟨⟩
        exact lazy rfl
      rw [eager, eager]
      exact ⟨rfl, h⟩

lemma length_readLaziness_le (cs : List Char) : (readLaziness cs).2.length ≤ cs.length := by
  rw [readLaziness.eq_def]
  split
  · exact Nat.le_succ _
  · exact le_rfl

/-! ## Single characters -/

/-- **A single character, an escape or an anchor**, behind whose first character the text goes on,
unless it is a word boundary that is cut off. -/
lemma readPrimitive?_agree (f : Flags) (c : Char) (rest : List Char) :
    Agree rest.length (readPrimitive? f (c :: rest)) (readPrimitive? f (c :: (rest ++ [')']))) ∨
      readPrimitive? f (c :: rest) = none ∧ ∃ inner,
        readPrimitive? f (c :: (rest ++ [')'])) =
          some (.anchor (.word f.ascii), '\x7b' :: inner) ∧ f.skip inner = [')'] := by
  simp only [readPrimitive?]
  split_ifs
  · rcases readEscape?_agree f (.seen rest) with alike | ⟨absent, inner, present, skipped⟩
    · exact Or.inl (alike.bind fun e _ _ later shorter => .check (e.node? f) id later shorter)
    · rw [absent, present]
      exact Or.inr ⟨rfl, inner, rfl, skipped⟩
  · exact Or.inl (.check f.dot? id (.seen rest) le_rfl)
  · exact Or.inl (.read _ (.seen rest) le_rfl)
  · exact Or.inl (.read _ (.seen rest) le_rfl)
  · exact Or.inl (.check (f.literal? c false) id (.seen rest) le_rfl)

/-- A primitive takes its first character, and more perhaps. -/
lemma length_readPrimitive?_le {f : Flags} {c : Char} {rest inner : List Char} {r : Regex}
    (h : readPrimitive? f (c :: rest) = some (r, inner)) : inner.length ≤ rest.length := by
  rcases readPrimitive?_agree f c rest with alike | ⟨absent, -⟩
  · exact (h ▸ alike).length_le
  · rw [h] at absent
    cases absent

/-! ## Alternatives -/

/-- **What the reader of alternatives has come to**: the expression and the names so far, and the
text that is left. -/
def told (x : Option (Piece × Reader)) : Option ((Piece × List String) × List Char) :=
  x.map fun (p, r) => ((p, r.names), r.rest)

/-- What is told of a reading that begins with something else. -/
lemma told_bind {α : Type} (x : Option α) (k : α → Option (Piece × Reader)) :
    told (x.bind k) = x.bind fun a => told (k a) :=
  Option.map_bind

/-- At the end of the text the alternatives end. -/
lemma readBranches?_end (n : Nat) (branches : List Piece) (items : List (Option Piece))
    (f : Flags) (names : List String) :
    Spent (told (readBranches? n branches items ⟨[], f, names⟩)) := by
  cases n with
  | zero => exact Or.inl rfl
  | succ n =>
      rw [readBranches?, skip_nil]
      exact Or.inr ⟨_, rfl⟩

/-- What follows a group whose inside has been read. -/
def behindGroup (n : Nat) (branches : List Piece) (items : List (Option Piece)) (f : Flags)
    (opening : Opening) (inside : (Piece × List String) × List Char) :
    Option ((Piece × List String) × List Char) :=
  match inside with
  | (_, []) => none
  | ((p, names), _ :: rest) =>
    told (readBranches? n branches (some (opening.piece p) :: items) ⟨rest, f, names⟩)

/-- What follows what an opening parenthesis introduces. -/
def behindOpening (n : Nat) (branches : List Piece) (items : List (Option Piece)) (f : Flags)
    (names : List String) (opened : Opening × List Char) :
    Option ((Piece × List String) × List Char) :=
  match opened with
  | (.flags g, rest) => told (readBranches? n branches (none :: items) ⟨rest, g, names⟩)
  | (opening, rest) =>
    (told (readBranches? n [] [] (opening.inside f names rest))).bind
      (behindGroup n branches items f opening)

/-- The reader of alternatives at an opening parenthesis. -/
lemma readBranches?_opens (n : Nat) (branches : List Piece) (items : List (Option Piece))
    {f : Flags} (names : List String) {cs rest : List Char} (h : f.skip cs = '(' :: rest) :
    told (readBranches? (n + 1) branches items ⟨cs, f, names⟩) =
      (readOpening? f names (f.skip rest)).bind (behindOpening n branches items f names) := by
  rw [readBranches?, h]
  dsimp only
  rw [if_neg (by decide), if_neg (by decide), if_pos rfl]
  refine (told_bind _ _).trans (congrArg _ (funext fun opened => ?_))
  obtain ⟨opening, rest⟩ := opened
  cases opening with
  | flags g => rfl
  | group g =>
      dsimp only [behindOpening]
      rcases readBranches? n [] [] ((Opening.group g).inside f names rest) with
        _ | ⟨p, _ | _, -, ns⟩ <;> rfl
  | named name =>
      dsimp only [behindOpening]
      rcases readBranches? n [] [] ((Opening.named name).inside f names rest) with
        _ | ⟨p, _ | _, -, ns⟩ <;> rfl
  | plain =>
      dsimp only [behindOpening]
      rcases readBranches? n [] [] (Opening.plain.inside f names rest) with
        _ | ⟨p, _ | _, -, ns⟩ <;> rfl

/-- The reader of alternatives at a bracketed class. -/
lemma readBranches?_class (n : Nat) (branches : List Piece) (items : List (Option Piece))
    {f : Flags} (names : List String) {cs rest : List Char} (h : f.skip cs = '[' :: rest) :
    told (readBranches? (n + 1) branches items ⟨cs, f, names⟩) =
      (readClass? f (2 * rest.length + 1) rest).bind fun ((s, depth), rest) =>
        told (readBranches? n branches (some ⟨.one s, depth⟩ :: items) ⟨rest, f, names⟩) := by
  rw [readBranches?, h]
  dsimp only
  rw [if_neg (by decide), if_neg (by decide), if_neg (by decide), if_pos rfl]
  exact told_bind _ _

/-- The reader of alternatives at a single character. -/
lemma readBranches?_single (n : Nat) (branches : List Piece) (items : List (Option Piece))
    {f : Flags} (names : List String) {c : Char} {cs rest : List Char} (h : f.skip cs = c :: rest)
    (closes : c ≠ ')') (bar : c ≠ '|') (opens : c ≠ '(') (bracket : c ≠ '[')
    (repeats : ¬isRepetition c) :
    told (readBranches? (n + 1) branches items ⟨cs, f, names⟩) =
      (readPrimitive? f (c :: rest)).bind fun (node, rest) =>
        told (readBranches? n branches (some ⟨node, 0⟩ :: items) ⟨rest, f, names⟩) := by
  rw [readBranches?, h]
  dsimp only
  rw [if_neg closes, if_neg bar, if_neg opens, if_neg bracket, if_neg repeats]
  exact told_bind _ _

/-- What follows the bounds of a repetition. -/
def behindBounds (n : Nat) (branches : List Piece) (items : List (Option Piece)) (f : Flags)
    (names : List String) (bounds : (Nat × Option Nat) × List Char) :
    Option ((Piece × List String) × List Char) :=
  match bounds with
  | ((least, most), rest) =>
    (repeatLast? f least most (readLaziness rest).1 items).bind fun items =>
      told (readBranches? n branches items ⟨(readLaziness rest).2, f, names⟩)

/-- The reader of alternatives at a repetition. -/
lemma readBranches?_repetition (n : Nat) (branches : List Piece) (items : List (Option Piece))
    {f : Flags} (names : List String) {c : Char} {cs rest : List Char} (h : f.skip cs = c :: rest)
    (hc : isRepetition c) :
    told (readBranches? (n + 1) branches items ⟨cs, f, names⟩) =
      (readRepetition? f c rest).bind (behindBounds n branches items f names) := by
  have other : c ≠ ')' ∧ c ≠ '|' ∧ c ≠ '(' ∧ c ≠ '[' := by
    refine ⟨?_, ?_, ?_, ?_⟩ <;> rintro rfl <;> cases hc
  rw [readBranches?, h]
  dsimp only
  rw [if_neg other.1, if_neg other.2.1, if_neg other.2.2.1, if_neg other.2.2.2, if_pos hc]
  exact (told_bind _ _).trans (congrArg _ (funext fun _ => told_bind _ _))

/-- Behind a word boundary that is cut off, the brace gives no bounds. -/
lemma readBranches?_cutOff (n : Nat) (branches : List Piece) (items : List (Option Piece))
    {f : Flags} (names : List String) {inner : List Char} (h : f.skip inner = [')']) :
    told (readBranches? n branches items ⟨'\x7b' :: inner, f, names⟩) = none := by
  cases n with
  | zero => rfl
  | succ n =>
      have brace : f.skip ('\x7b' :: inner) = '\x7b' :: inner := by
        rw [Flags.skip]
        split <;> rfl
      rw [readBranches?_repetition n branches items names brace rfl]
      simp [readRepetition?, readBounds?_closing f h]

/-- At the end of the text a group that was opened is not closed. -/
lemma behindOpening_end (n : Nat) (branches : List Piece) (items : List (Option Piece))
    (f : Flags) (names : List String) (opening : Opening) :
    Spent (behindOpening n branches items f names (opening, [])) := by
  have group (o : Opening) (g : Flags) (ns : List String) :
      (told (readBranches? n [] [] ⟨[], g, ns⟩)).bind (behindGroup n branches items f o) =
        none := by
    rcases readBranches?_end n [] [] g ns with absent | ⟨a, present⟩
    · rw [absent]
      rfl
    · rw [present]
      rfl
  cases opening with
  | flags g => exact readBranches?_end n branches _ g names
  | group g => exact Or.inl (group (.group g) g names)
  | named name => exact Or.inl (group (.named name) f (name :: names))
  | plain => exact Or.inl (group .plain f names)

/-- At the end of the text the bounds of a repetition are the last that is read. -/
lemma behindBounds_end (n : Nat) (branches : List Piece) (items : List (Option Piece))
    (f : Flags) (names : List String) (bounds : Nat × Option Nat) :
    Spent (behindBounds n branches items f names (bounds, [])) := by
  simp only [behindBounds, readLaziness]
  cases repeatLast? f bounds.1 bounds.2 false items with
  | none => exact Or.inl rfl
  | some items => exact readBranches?_end n branches items f names

/-- **Reading with less fuel goes on alike**, with the parenthesis and without. -/
def Onward (n m : Nat) : Prop :=
  ∀ {cs cs' : List Char} (branches : List Piece) (items : List (Option Piece)) (f : Flags)
    (names : List String), Trailed cs cs' → cs.length < n → cs.length + 1 < m →
      Agree cs.length (told (readBranches? n branches items ⟨cs, f, names⟩))
        (told (readBranches? m branches items ⟨cs', f, names⟩))

section

variable {n m : Nat} (onward : Onward n m) (branches : List Piece) (items : List (Option Piece))
  (f : Flags) (names : List String)

include onward

/-- Behind a group both texts go on alike, if they do with less fuel. -/
lemma behindGroup_agree (opening : Opening) (inside : Piece × List String) {cs cs' : List Char}
    (h : Trailed cs cs') (hn : cs.length < n) (hm : cs.length + 1 < m) :
    Agree cs.length (behindGroup n branches items f opening (inside, cs))
      (behindGroup m branches items f opening (inside, cs')) := by
  rcases h.cases_head with ⟨rfl, rfl⟩ | ⟨rfl, rfl⟩ | ⟨c, rest, rfl, rfl⟩
  · exact .failed
  · -- the parenthesis closes the group
    exact Agree.none_iff_spent.mpr (readBranches?_end m branches _ f inside.2)
  · simp only [List.length_cons] at hn hm
    exact (onward branches _ f _ (.seen rest) (by omega) (by omega)).mono (Nat.le_succ _)

/-- Behind the opening of a group both texts go on alike, first inside of it and then behind it. -/
lemma behindOpening_agree (opening : Opening) {cs cs' : List Char} (h : Trailed cs cs')
    (hn : cs.length < n) (hm : cs.length + 1 < m) :
    Agree cs.length (behindOpening n branches items f names (opening, cs))
      (behindOpening m branches items f names (opening, cs')) := by
  have group (o : Opening) (g : Flags) (ns : List String) :
      Agree cs.length
        ((told (readBranches? n [] [] ⟨cs, g, ns⟩)).bind (behindGroup n branches items f o))
        ((told (readBranches? m [] [] ⟨cs', g, ns⟩)).bind (behindGroup m branches items f o)) :=
    (onward [] [] g ns h hn hm).bind_both
      (fun a _ _ later shorter => (behindGroup_agree onward branches items f o a later
        (by omega) (by omega)).mono shorter)
      fun _ => Or.inl rfl
  cases opening with
  | flags g => exact onward branches _ g names h hn hm
  | group g => exact group (.group g) g names
  | named name => exact group (.named name) f (name :: names)
  | plain => exact group .plain f names

/-- Behind the bounds of a repetition both texts go on alike. -/
lemma behindBounds_agree (bounds : Nat × Option Nat) {cs cs' : List Char} (h : Trailed cs cs')
    (hn : cs.length < n) (hm : cs.length + 1 < m) :
    Agree cs.length (behindBounds n branches items f names (bounds, cs))
      (behindBounds m branches items f names (bounds, cs')) := by
  obtain ⟨same, later⟩ := h.laziness
  have shorter := length_readLaziness_le cs
  simp only [behindBounds, same]
  cases repeatLast? f bounds.1 bounds.2 (readLaziness cs).1 items with
  | none => exact .failed
  | some items => exact (onward branches items f names later (by omega) (by omega)).mono shorter

end

/-- **Alternatives.** -/
lemma readBranches?_agree (n m : Nat) : Onward n m := by
  induction n generalizing m with
  | zero => exact fun _ _ _ _ _ hn _ => absurd hn (Nat.not_lt_zero _)
  | succ n ih =>
      intro cs cs' branches items f names h hn hm
      obtain ⟨m, rfl⟩ : ∃ k, m = k + 1 := ⟨m - 1, by omega⟩
      have onward : Onward n m := ih m
      have shorter := length_skip_le f cs
      rcases (h.skip f).cases_head with ⟨hx, hy⟩ | ⟨hx, hy⟩ | ⟨c, rest, hx, hy⟩
      · rw [readBranches?, readBranches?, hx, hy]
        exact .read _ .overlooked (Nat.zero_le _)
      · rw [readBranches?, readBranches?, hx, hy]
        exact .read _ (.seen []) (Nat.zero_le _)
      rw [hx, List.length_cons] at shorter
      refine Agree.mono (n := rest.length + 1) ?_ shorter
      by_cases closes : c = ')'
      · rw [readBranches?, readBranches?, hx, hy]
        simp only [if_pos closes]
        exact .read _ (.seen (c :: rest)) le_rfl
      by_cases bar : c = '|'
      · rw [readBranches?, readBranches?, hx, hy]
        simp only [if_neg closes, if_pos bar]
        exact (onward _ _ f names (.seen rest) (by omega) (by omega)).mono (Nat.le_succ _)
      refine Agree.mono ?_ (Nat.le_succ rest.length)
      by_cases opens : c = '('
      · subst opens
        rw [readBranches?_opens n branches items names hx,
          readBranches?_opens m branches items names hy]
        exact ((readOpening?_reads f names).skip f).agree (.seen rest) |>.bind_both
          (fun opening _ _ later less => (behindOpening_agree onward branches items f names opening
            later (by omega) (by omega)).mono less)
          (behindOpening_end m branches items f names)
      by_cases bracket : c = '['
      · subst bracket
        rw [readBranches?_class n branches items names hx,
          readBranches?_class m branches items names hy]
        exact ((readClass?_reads f).agree (.seen rest)).bind_both
          (fun _ _ _ later less =>
            (onward branches _ f names later (by omega) (by omega)).mono less)
          fun _ => readBranches?_end m branches _ f names
      by_cases repeats : isRepetition c
      · rw [readBranches?_repetition n branches items names hx repeats,
          readBranches?_repetition m branches items names hy repeats]
        exact ((readRepetition?_reads f c).agree (.seen rest)).bind_both
          (fun bounds _ _ later less => (behindBounds_agree onward branches items f names bounds
            later (by omega) (by omega)).mono less)
          (behindBounds_end m branches items f names)
      rw [readBranches?_single n branches items names hx closes bar opens bracket repeats,
        readBranches?_single m branches items names hy closes bar opens bracket repeats]
      rcases readPrimitive?_agree f c rest with alike | ⟨absent, inner, present, skipped⟩
      · exact alike.bind_both
          (fun _ _ _ later less =>
            (onward branches _ f names later (by omega) (by omega)).mono less)
          fun _ => readBranches?_end m branches _ f names
      · rw [absent, present, Option.bind_none, Option.bind_some]
        dsimp only
        rw [readBranches?_cutOff m branches _ names skipped]
        exact .failed

/-! ## Enough fuel -/

/-- To read branches only consumes, where there is fuel enough. -/
lemma length_told_le {n : Nat} {branches : List Piece} {items : List (Option Piece)} {f : Flags}
    {names : List String} {cs rest : List Char} {a : Piece × List String} (hn : cs.length < n)
    (h : told (readBranches? n branches items ⟨cs, f, names⟩) = some (a, rest)) :
    rest.length ≤ cs.length :=
  (h ▸ readBranches?_agree n (cs.length + 2) branches items f names (.seen cs) hn
    (Nat.lt_succ_self _)).length_le

/-- **How much fuel there is does not matter**, if either is enough. -/
def Enough (n m : Nat) : Prop :=
  ∀ {cs : List Char} (branches : List Piece) (items : List (Option Piece)) (f : Flags)
    (names : List String), cs.length < n → cs.length < m →
      told (readBranches? n branches items ⟨cs, f, names⟩) =
        told (readBranches? m branches items ⟨cs, f, names⟩)

section

variable {n m : Nat} (enough : Enough n m) (branches : List Piece) (items : List (Option Piece))
  (f : Flags) (names : List String)

include enough

lemma behindOpening_fuel (opening : Opening) {cs : List Char} (hn : cs.length < n)
    (hm : cs.length < m) :
    behindOpening n branches items f names (opening, cs) =
      behindOpening m branches items f names (opening, cs) := by
  have group (o : Opening) (g : Flags) (ns : List String) :
      (told (readBranches? n [] [] ⟨cs, g, ns⟩)).bind (behindGroup n branches items f o) =
        (told (readBranches? m [] [] ⟨cs, g, ns⟩)).bind (behindGroup m branches items f o) := by
    rw [← enough [] [] g ns hn hm]
    refine Option.bind_congr fun (p, left) inside => ?_
    cases left with
    | nil => rfl
    | cons c left =>
        have shorter := length_told_le hn inside
        rw [List.length_cons] at shorter
        exact enough _ _ _ _ (by omega) (by omega)
  cases opening with
  | flags g => exact enough _ _ _ _ hn hm
  | group g => exact group (.group g) g names
  | named name => exact group (.named name) f (name :: names)
  | plain => exact group .plain f names

lemma behindBounds_fuel (bounds : Nat × Option Nat) {cs : List Char} (hn : cs.length < n)
    (hm : cs.length < m) :
    behindBounds n branches items f names (bounds, cs) =
      behindBounds m branches items f names (bounds, cs) := by
  have shorter := length_readLaziness_le cs
  exact Option.bind_congr fun items _ => enough _ _ _ _ (by omega) (by omega)

end

/-- Any two numbers beyond the length of the text are fuel enough. -/
lemma readBranches?_fuel (n m : Nat) : Enough n m := by
  induction n generalizing m with
  | zero => exact fun _ _ _ _ hn _ => absurd hn (Nat.not_lt_zero _)
  | succ n ih =>
      intro cs branches items f names hn hm
      obtain ⟨m, rfl⟩ : ∃ k, m = k + 1 := ⟨m - 1, by omega⟩
      have enough : Enough n m := ih m
      have shorter := length_skip_le f cs
      rcases skipped : f.skip cs with _ | ⟨c, rest⟩
      · rw [readBranches?, readBranches?, skipped]
      rw [skipped, List.length_cons] at shorter
      by_cases closes : c = ')'
      · rw [readBranches?, readBranches?, skipped]
        simp only [if_pos closes]
      by_cases bar : c = '|'
      · rw [readBranches?, readBranches?, skipped]
        simp only [if_neg closes, if_pos bar]
        exact enough _ _ _ _ (by omega) (by omega)
      by_cases opens : c = '('
      · subst opens
        rw [readBranches?_opens n branches items names skipped,
          readBranches?_opens m branches items names skipped]
        refine Option.bind_congr fun (opening, inner) read => ?_
        have less := ((readOpening?_reads f names).skip f).length_le read
        exact behindOpening_fuel enough branches items f names opening (by omega) (by omega)
      by_cases bracket : c = '['
      · subst bracket
        rw [readBranches?_class n branches items names skipped,
          readBranches?_class m branches items names skipped]
        refine Option.bind_congr fun ((s, depth), inner) read => ?_
        have less := (readClass?_reads f).length_le read
        exact enough _ _ _ _ (by omega) (by omega)
      by_cases repeats : isRepetition c
      · rw [readBranches?_repetition n branches items names skipped repeats,
          readBranches?_repetition m branches items names skipped repeats]
        refine Option.bind_congr fun (bounds, inner) read => ?_
        have less := (readRepetition?_reads f c).length_le read
        exact behindBounds_fuel enough branches items f names bounds (by omega) (by omega)
      rw [readBranches?_single n branches items names skipped closes bar opens bracket repeats,
        readBranches?_single m branches items names skipped closes bar opens bracket repeats]
      refine Option.bind_congr fun (node, inner) read => ?_
      have less := length_readPrimitive?_le read
      exact enough _ _ _ _ (by omega) (by omega)

end Connector.Regex
