import Connector.Builtins
import Connector.Proofs.Regex.Groups

/-!
# Patterns at the start of a text

A pattern is matched at the start of a text by putting a group around it and an anchor before that.
The group is opened and closed in the text of the pattern, and whether it holds the pattern, the
whole of it and nothing else, depends on what is in the pattern.

* `Regex.outline` — what a pattern reads as, up to a closing parenthesis that it does not open.
* `Regex.parse?_anchored` — how a pattern with the group around it is read.
* `Regex.occursIn_textStart` — an anchor leaves the matches at the start of the text.
* `Builtins.MatchedAtStart` — what a pattern is for: it is matched at the start of a text, or
  refused if it is malformed.
* **`Builtins.matchedAtStart_iff`** — a pattern is, just where the group holds it
  (`Builtins.Contained`).
-/

namespace Connector.Regex

/-! ## The expression of a pattern -/

/-- **What a pattern reads as**: the alternatives up to its end, or up to a closing parenthesis that
the pattern does not open. -/
def outline (pattern : String) : Option ((Piece × List String) × List Char) :=
  told (readBranches? (pattern.toList.length + 1) [] [] ⟨pattern.toList, {}, []⟩)

/-- The expression of what has been read, if that is everything and not nested too deep. -/
def accepted (x : Option ((Piece × List String) × List Char)) : Option Regex :=
  match x with
  | some ((p, _), []) => if p.depth ≤ maxDepth then some p.node else none
  | _ => none

lemma parse?_eq_accepted (pattern : String) : parse? pattern = accepted (outline pattern) := by
  rw [parse?, outline]
  rcases readBranches? (pattern.toList.length + 1) [] [] ⟨pattern.toList, {}, []⟩ with
    _ | ⟨p, _ | _, f, names⟩ <;> rfl

/-- A pattern and the same with a closing parenthesis behind it. -/
lemma outline_closing (pattern : String) :
    Agree pattern.toList.length (outline pattern) (outline (pattern ++ ")")) := by
  have closing : (pattern ++ ")").toList = pattern.toList ++ [')'] := String.toList_append
  rw [outline, outline, closing]
  exact readBranches?_agree _ _ [] [] {} [] (.seen _) (Nat.lt_succ_self _) (by simp)

/-- **The pattern with the group around it** is read up to the end of the group and behind it. -/
lemma parse?_anchored (pattern : String) :
    parse? (Builtins.anchored pattern) =
      accepted ((outline (pattern ++ ")")).bind
        (behindGroup ((pattern ++ ")").toList.length + 3) [] [some ⟨.anchor .textStart, 0⟩] {}
          (.group {}))) := by
  have text : (Builtins.anchored pattern).toList =
      '^' :: '(' :: '?' :: ':' :: (pattern ++ ")").toList := by
    simp [Builtins.anchored, String.toList_append]
  rw [parse?_eq_accepted, outline, outline, text]
  generalize (pattern ++ ")").toList = cs
  have anchor :
      told (readBranches? (cs.length + 5) [] [] ⟨'^' :: '(' :: '?' :: ':' :: cs, {}, []⟩) =
        told (readBranches? (cs.length + 4) [] [some ⟨.anchor .textStart, 0⟩]
          ⟨'(' :: '?' :: ':' :: cs, {}, []⟩) :=
    readBranches?_single (c := '^') (cs.length + 4) [] [] [] rfl (by decide) (by decide) (by decide)
      (by decide) (by decide)
  have opens : ({} : Flags).skip ('(' :: '?' :: ':' :: cs) = '(' :: '?' :: ':' :: cs := rfl
  have group : told (readBranches? (cs.length + 4) [] [some ⟨.anchor .textStart, 0⟩]
        ⟨'(' :: '?' :: ':' :: cs, {}, []⟩) =
      (told (readBranches? (cs.length + 3) [] [] ⟨cs, {}, []⟩)).bind
        (behindGroup (cs.length + 3) [] [some ⟨.anchor .textStart, 0⟩] {} (.group {})) :=
    readBranches?_opens (cs.length + 3) [] _ [] opens
  have fuel : told (readBranches? (cs.length + 3) [] [] ⟨cs, {}, []⟩) =
      told (readBranches? (cs.length + 1) [] [] ⟨cs, {}, []⟩) :=
    readBranches?_fuel _ _ [] [] {} [] (by omega) (by omega)
  rw [List.length_cons, List.length_cons, List.length_cons, List.length_cons, anchor, group, fuel]

/-- What stands behind the group is nothing, if the group ends with its parenthesis. -/
lemma parse?_anchored_of_closed {pattern : String} {p : Piece} {names : List String}
    (h : outline (pattern ++ ")") = some ((p, names), [')'])) :
    parse? (Builtins.anchored pattern) =
      if p.depth + 2 ≤ maxDepth then some (.seq (.anchor .textStart) p.node) else none := by
  have behind (k : Nat) (o : Opening) (ho : o.piece p = ⟨p.node, p.depth + 1⟩) :
      behindGroup (k + 1) [] [some ⟨.anchor .textStart, 0⟩] {} o ((p, names), [')']) =
        some ((⟨.seq (.anchor .textStart) p.node, p.depth + 2⟩, names), []) := by
    rw [behindGroup, ho, readBranches?, skip_nil]
    simp [told, Piece.sequence, Piece.alternatives]
  rw [parse?_anchored, h, Option.bind_some, behind _ _ rfl]
  rfl

/-- There is no group that ends, if its parenthesis is overlooked or the reading fails. -/
lemma parse?_anchored_of_open {pattern : String}
    (h : Spent (outline (pattern ++ ")"))) :
    parse? (Builtins.anchored pattern) = none := by
  rw [parse?_anchored]
  rcases h with absent | ⟨a, overlooked⟩
  · rw [absent]
    rfl
  · rw [overlooked]
    rfl

/-! ## Patterns that compile -/

/-- A pattern may be used. -/
def Compiles (pattern : String) : Prop := ∃ r, compile pattern = .ok r

lemma compile_eq_ok_iff {pattern : String} {r : Regex} :
    compile pattern = .ok r ↔ parse? pattern = some r ∧ r.footprint ≤ maxFootprint := by
  rw [compile]
  rcases parse? pattern with _ | q
  · simp
  · dsimp only
    split_ifs with room
    · simp only [Except.ok.injEq, Option.some.injEq]
      exact ⟨fun eq => ⟨eq, eq ▸ room⟩, fun h => h.1⟩
    · simp only [Option.some.injEq, false_iff]
      rintro ⟨rfl, fits⟩
      exact room fits

lemma compile_eq_ok_iff_outline {pattern : String} {r : Regex} :
    compile pattern = .ok r ↔ ∃ p names, outline pattern = some ((p, names), []) ∧ p.node = r ∧
      p.depth ≤ maxDepth ∧ r.footprint ≤ maxFootprint := by
  rw [compile_eq_ok_iff, parse?_eq_accepted]
  rcases outline pattern with _ | ⟨⟨p, names⟩, _ | _⟩
  · simp [accepted]
  · rw [accepted, Option.ite_none_right_eq_some]
    constructor
    · rintro ⟨⟨shallow, eq⟩, fits⟩
      exact ⟨p, names, rfl, by simpa using eq, shallow, fits⟩
    · rintro ⟨q, names', eq, node, shallow, fits⟩
      cases eq
      exact ⟨⟨shallow, congrArg some node⟩, fits⟩
  · simp [accepted]

lemma not_compiles_iff {pattern : String} :
    ¬Compiles pattern ↔ ∃ e, compile pattern = .error e := by
  rw [Compiles]
  cases compile pattern <;> simp

lemma Compiles.parse?_ne_none {pattern : String} (h : Compiles pattern) :
    parse? pattern ≠ none := by
  obtain ⟨r, compiled⟩ := h
  rw [(compile_eq_ok_iff.mp compiled).1]
  exact Option.some_ne_none r

/-- A pattern that cannot be read cannot be with the group around it either. -/
lemma not_compiles_anchored_of_outline {pattern : String} (h : outline pattern = none) :
    ¬Compiles (Builtins.anchored pattern) := fun compiles => by
  have closing := outline_closing pattern
  rw [h, Agree.none_iff_spent] at closing
  exact compiles.parse?_ne_none (parse?_anchored_of_open closing)

/-- Behind a pattern that is read to its end, the parenthesis is overlooked or left over. -/
lemma outline_closing_of_whole {pattern : String} {a : Piece × List String}
    (h : outline pattern = some (a, [])) :
    outline (pattern ++ ")") = some (a, []) ∨ outline (pattern ++ ")") = some (a, [')']) := by
  have closing := outline_closing pattern
  rw [h] at closing
  generalize outline (pattern ++ ")") = y at closing
  cases closing with
  | read _ trailed =>
      rcases trailed.cases_head with ⟨-, rfl⟩ | ⟨-, rfl⟩ | ⟨c, rest, eq, -⟩
      · exact Or.inl rfl
      · exact Or.inr rfl
      · cases eq

/-- **The group with the pattern in it** compiles where there is room for it. -/
lemma compile_anchored_eq_ok_iff {pattern : String} {p : Piece} {names : List String} {r : Regex}
    (h : outline (pattern ++ ")") = some ((p, names), [')'])) :
    compile (Builtins.anchored pattern) = .ok r ↔
      (p.depth + 2 ≤ maxDepth ∧ 32 + p.node.footprint ≤ maxFootprint) ∧
        r = .seq (.anchor .textStart) p.node := by
  rw [compile_eq_ok_iff, parse?_anchored_of_closed h, Option.ite_none_right_eq_some]
  constructor
  · rintro ⟨⟨shallow, eq⟩, fits⟩
    cases eq
    exact ⟨⟨shallow, fits⟩, rfl⟩
  · rintro ⟨⟨shallow, fits⟩, rfl⟩
    exact ⟨⟨shallow, rfl⟩, fits⟩

/-! ## Matches at the start -/

lemma distinctFrom_nil_eq_nil (spots : List Spot) :
    Spot.distinctFrom [] spots = [] ↔ spots = [] := by
  cases spots <;> simp [Spot.distinctFrom]

lemma distinct_eq_nil_iff (spots : List Spot) : Spot.distinct spots = [] ↔ spots = [] := by
  rcases spots with _ | ⟨s, _ | ⟨t, rest⟩⟩ <;> simp [Spot.distinct, distinctFrom_nil_eq_nil]

/-- Behind the start of the text the anchor lets nothing through. -/
lemma findFrom_textStart (r : Regex) (n : Nat) {s : Spot} (h : s.before ≠ none) :
    (Regex.seq (.anchor .textStart) r).findFrom n s = none := by
  have stuck {s : Spot} (h : s.before ≠ none) : (Regex.seq (.anchor .textStart) r).ends s = [] := by
    simp [ends, Anchor.holds, h, Spot.distinct]
  induction n generalizing s with
  | zero => rw [findFrom, stuck h]; rfl
  | succ n ih =>
      rw [findFrom, stuck h]
      rcases s with ⟨before, _ | ⟨c, rest⟩, index, groups⟩
      · rfl
      · exact ih (Option.some_ne_none c)

/-- **An anchor leaves the matches at the start of the text.** -/
lemma occursIn_textStart (r : Regex) (text : String) :
    (Regex.seq (.anchor .textStart) r).occursIn text = r.matchesAt (Spot.start text) := by
  have atStart : (Regex.seq (.anchor .textStart) r).ends (Spot.start text) =
      Spot.distinct (r.ends (Spot.start text)) := by
    simp [ends, Anchor.holds, Spot.start]
  have found (n : Nat) : ((Regex.seq (.anchor .textStart) r).findFrom n (Spot.start text)).isSome =
      !((Regex.seq (.anchor .textStart) r).ends (Spot.start text)).isEmpty := by
    cases n with
    | zero => cases h : (Regex.seq (.anchor .textStart) r).ends (Spot.start text) <;>
        simp [findFrom, h]
    | succ n =>
        rw [findFrom]
        cases (Regex.seq (.anchor .textStart) r).ends (Spot.start text) with
        | cons e rest => rfl
        | nil =>
            cases (Spot.start text).rest with
            | nil => rfl
            | cons c rest =>
                exact congrArg _ (findFrom_textStart r n (Option.some_ne_none c))
  rw [occursIn, find?, matchesAt, found, atStart, Bool.eq_iff_iff]
  simp [distinct_eq_nil_iff]

end Connector.Regex

namespace Connector.Builtins

open Regex (Compiles compile outline maxDepth maxFootprint)

/-- **The group around a pattern holds the pattern**, the whole of it and nothing else. -/
structure Contained (pattern : String) : Prop where
  /-- Where a parenthesis that the pattern does not open closes the group early, the whole is
  malformed. -/
  inside : ∀ a c after, outline pattern = some (a, c :: after) → ¬Compiles (anchored pattern)
  /-- The parenthesis that closes the group is not swallowed by a comment at the end of the pattern:
  there it would be one too many. -/
  closes : Compiles pattern → ¬Compiles (pattern ++ ")")
  /-- There is room for the group and the anchor. -/
  room : Compiles pattern → ∀ p names, outline pattern = some ((p, names), []) →
    p.depth + 2 ≤ maxDepth ∧ 32 + p.node.footprint ≤ maxFootprint

/-- A call fails because of its first input. -/
def Refused (x : Except CallError Reply) : Prop :=
  ∃ message, x = .error (.invalidArgument 0 message)

/-- **A pattern is matched at the start of the text of a value**, and refused if it is malformed;
the negation is the negation. -/
def MatchedAtStart (pattern : String) (source : Json) : Prop :=
  match compile pattern with
  | .error _ =>
    Refused (regexMatch [.str pattern, source]) ∧ Refused (regexNotMatch [.str pattern, source])
  | .ok r =>
    regexMatch [.str pattern, source] =
        .ok (answer (.bool (r.matchesAt (Spot.start source.text)))) ∧
      regexNotMatch [.str pattern, source] =
        .ok (answer (.bool (!r.matchesAt (Spot.start source.text))))

lemma matchesStart_eq (pattern : String) (source : Json) :
    matchesStart [.str pattern, source] =
      (compiled (anchored pattern)).map fun r => r.occursIn source.text := by
  rw [matchesStart]
  rcases h : compiled (anchored pattern) with e | r <;>
    simp [Callable.textArgument, Callable.argument, h, bind, Except.bind, Except.map, pure,
      Except.pure]

/-- What is refused with the group around it, is refused by both. -/
lemma refused_of_not_compiles {pattern : String} (source : Json)
    (h : ¬Compiles (anchored pattern)) :
    Refused (regexMatch [.str pattern, source]) ∧
      Refused (regexNotMatch [.str pattern, source]) := by
  obtain ⟨e, failed⟩ := Regex.not_compiles_iff.mp h
  have refused : matchesStart [.str pattern, source] = .error (.invalidArgument 0 e.message) := by
    rw [matchesStart_eq, compiled, failed]
    rfl
  constructor
  · exact ⟨e.message, by rw [regexMatch, refused]; rfl⟩
  · exact ⟨e.message, by rw [regexNotMatch, refused]; rfl⟩

/-- What compiles with the group around it, is answered by both. -/
lemma answers_of_compile {pattern : String} {r : Regex} (source : Json)
    (h : compile (anchored pattern) = .ok r) :
    regexMatch [.str pattern, source] = .ok (answer (.bool (r.occursIn source.text))) ∧
      regexNotMatch [.str pattern, source] = .ok (answer (.bool (!r.occursIn source.text))) := by
  have found : matchesStart [.str pattern, source] = .ok (r.occursIn source.text) := by
    rw [matchesStart_eq, compiled, h]
    rfl
  constructor
  · rw [regexMatch, found]; rfl
  · rw [regexNotMatch, found]; rfl

lemma refused_iff (pattern : String) (source : Json) :
    Refused (regexMatch [.str pattern, source]) ↔ ¬Compiles (anchored pattern) := by
  refine ⟨fun ⟨message, refused⟩ ⟨r, compiles⟩ => ?_, fun h => (refused_of_not_compiles source h).1⟩
  rw [(answers_of_compile source compiles).1] at refused
  cases refused

/-- A malformed pattern is refused just where the group holds it. -/
lemma matchedAtStart_iff_of_error {pattern : String} (source : Json) {e : RegexError}
    (h : compile pattern = .error e) : MatchedAtStart pattern source ↔ Contained pattern := by
  have malformed : ¬Compiles pattern := Regex.not_compiles_iff.mpr ⟨e, h⟩
  rw [MatchedAtStart, h]
  dsimp only
  constructor
  · rintro ⟨refused, -⟩
    have refusal := (refused_iff pattern source).mp refused
    exact ⟨fun _ _ _ _ => refusal, fun wellFormed => absurd wellFormed malformed,
      fun wellFormed => absurd wellFormed malformed⟩
  · intro contained
    refine refused_of_not_compiles source ?_
    rcases read : outline pattern with _ | ⟨⟨p, names⟩, _ | ⟨c, after⟩⟩
    · exact Regex.not_compiles_anchored_of_outline read
    · rcases Regex.outline_closing_of_whole read with overlooked | closed
      · exact fun compiles => compiles.parse?_ne_none
          (Regex.parse?_anchored_of_open (.inr ⟨_, overlooked⟩))
      · rintro ⟨r, compiles⟩
        obtain ⟨⟨shallow, fits⟩, -⟩ := (Regex.compile_anchored_eq_ok_iff closed).mp compiles
        exact malformed ⟨p.node, Regex.compile_eq_ok_iff_outline.mpr
          ⟨p, names, read, rfl, by omega, by omega⟩⟩
    · exact contained.inside _ _ _ read

/-- A pattern that may be used is matched at the start just where the group holds it. -/
lemma matchedAtStart_iff_of_ok {pattern : String} (source : Json) {r : Regex}
    (h : compile pattern = .ok r) : MatchedAtStart pattern source ↔ Contained pattern := by
  have wellFormed : Compiles pattern := ⟨r, h⟩
  obtain ⟨p, names, read, rfl, shallow, fits⟩ := Regex.compile_eq_ok_iff_outline.mp h
  have answered (matched : MatchedAtStart pattern source) : Compiles (anchored pattern) := by
    rw [MatchedAtStart, h] at matched
    by_contra refusal
    obtain ⟨message, refused⟩ := (refused_iff pattern source).mpr refusal
    rw [matched.1] at refused
    cases refused
  rcases Regex.outline_closing_of_whole read with overlooked | closed
  · constructor
    · exact fun matched => absurd (Regex.parse?_anchored_of_open (.inr ⟨_, overlooked⟩))
        (answered matched).parse?_ne_none
    · exact fun contained => absurd ⟨p.node, Regex.compile_eq_ok_iff_outline.mpr
        ⟨p, names, overlooked, rfl, shallow, fits⟩⟩ (contained.closes wellFormed)
  · constructor
    · intro matched
      obtain ⟨q, compiles⟩ := answered matched
      refine ⟨fun _ _ _ early => ?_, fun _ ⟨q, compiles⟩ => ?_, fun _ q _ again => ?_⟩
      · rw [read] at early
        cases early
      · obtain ⟨_, _, whole, -⟩ := Regex.compile_eq_ok_iff_outline.mp compiles
        rw [closed] at whole
        cases whole
      · rw [read] at again
        cases again
        exact ((Regex.compile_anchored_eq_ok_iff closed).mp compiles).1
    · intro contained
      have compiles := (Regex.compile_anchored_eq_ok_iff closed).mpr
        ⟨contained.room wellFormed p names read, rfl⟩
      rw [MatchedAtStart, h]
      simpa only [Regex.occursIn_textStart] using answers_of_compile source compiles

/-- **A pattern is matched at the start of the text, or refused if it is malformed, just where the
group around it holds it.** -/
theorem matchedAtStart_iff (pattern : String) (source : Json) :
    MatchedAtStart pattern source ↔ Contained pattern := by
  rcases h : compile pattern with e | r
  · exact matchedAtStart_iff_of_error source h
  · exact matchedAtStart_iff_of_ok source h

/-- **A group that is closed early, and a group that is not closed.** The first pattern is malformed
and yet answered, for a match that is not at the start; the second one is well formed and yet
refused, because its comment swallows the parenthesis. -/
theorem not_matchedAtStart :
    ¬MatchedAtStart "a)|(?:b" (.str "xb") ∧ ¬MatchedAtStart "(?x)a#c" (.str "a") := by
  constructor
  · have malformed : (compile "a)|(?:b").toBool = false := by decide +kernel
    have answered : (regexMatch [.str "a)|(?:b", .str "xb"]).toBool = true := by decide +kernel
    intro matched
    rw [MatchedAtStart] at matched
    split at matched
    · obtain ⟨⟨message, refused⟩, -⟩ := matched
      rw [refused] at answered
      cases answered
    · rename_i r compiles
      rw [compiles] at malformed
      cases malformed
  · have wellFormed : (compile "(?x)a#c").toBool = true := by decide +kernel
    have refused : (regexMatch [.str "(?x)a#c", .str "a"]).toBool = false := by decide +kernel
    intro matched
    rw [MatchedAtStart] at matched
    split at matched
    · rename_i e failed
      rw [failed] at wellFormed
      cases wellFormed
    · rw [matched.1] at refused
      cases refused

end Connector.Builtins
