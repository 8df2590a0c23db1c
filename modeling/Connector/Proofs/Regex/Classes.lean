import Connector.Proofs.Regex.Trailing

/-!
# A closing parenthesis behind an escape or a class

* **`readEscape?_agree`** — the reader of an escape, with and without the parenthesis.  A word
  boundary is special: what is in braces behind it may be its name or the bounds of a repetition,
  and which of them it is depends on the parenthesis where the text ends behind the opening brace
  (`CutOff`).
* **`readClass?_reads`** — the reader of a bracketed class, which calls itself.
-/

namespace Connector.Regex

/-! ## Escapes -/

/-- So many hexadecimal digits are read alike, by induction on how many are missing. -/
lemma readHexDigits?_reads (f : Flags) (n value : Nat) : Reads (readHexDigits? f n value) := by
  induction n generalizing value with
  | zero => exact Reads.done value
  | succ n ih => exact Reads.head rfl fun c => Reads.given (hexValue? c) fun d => (ih _).skip f

/-- Digits in braces are read alike; a parenthesis among them is no digit. -/
lemma readHexInBraces?_agree (f : Flags) {cs cs' : List Char} (h : Trailed cs cs') {n m : Nat}
    (hn : cs.length < n) (hm : cs'.length < m) (value? : Option Nat) :
    Agree cs.length (readHexInBraces? f n value? cs) (readHexInBraces? f m value? cs') := by
  induction n generalizing m cs cs' value? with
  | zero => omega
  | succ n ih =>
      obtain ⟨m, rfl⟩ : ∃ k, m = k + 1 := ⟨m - 1, by omega⟩
      rcases h.cases_head with ⟨rfl, rfl⟩ | ⟨rfl, rfl⟩ | ⟨c, rest, rfl, rfl⟩
      · exact .failed
      · exact .failed
      · have later := (Trailed.seen rest).skip f
        have shorter := length_skip_le f rest
        have shorter' := length_skip_le f (rest ++ [')'])
        simp only [List.length_cons] at hn hm
        by_cases closes : c = '\x7d'
        · subst closes
          exact (Agree.check value? id later shorter).mono (Nat.le_succ _)
        · have step (k : Nat) (tail : List Char) : readHexInBraces? f (k + 1) value? (c :: tail) =
              (hexValue? c).bind fun d =>
                readHexInBraces? f k (some (16 * value?.getD 0 + d)) (f.skip tail) := by
            rw [readHexInBraces?]
            · rfl
            · exact closes
          rw [step, step]
          cases hexValue? c with
          | none => exact .failed
          | some d => exact (ih later (by omega) (by omega) _).mono (shorter.trans (Nat.le_succ _))

lemma codeHere?_reads (f : Flags) (letter : Char) : Reads (codeHere? f letter) := by
  have digits : Reads fun cs => (readHexDigits? f (codeLength letter) 0 cs).bind fun r =>
      (charOfCode? r.1).bind fun c => some (Escape.literal c (letter = 'x'), r.2) :=
    (readHexDigits?_reads f (codeLength letter) 0).bind fun n =>
      Reads.given (charOfCode? n) fun c => Reads.done (Escape.literal c (letter = 'x'))
  refine Reads.peek (d := '\x7b') (by decide) ?_ digits fun cs other => ?_
  · refine Reads.bind ⟨fun {rest rest'} h => ?_⟩ fun n =>
      Reads.given (charOfCode? n) fun c => Reads.done (Escape.literal c false)
    have shorter := length_skip_le f rest
    have shorter' := length_skip_le f rest'
    exact (readHexInBraces?_agree f (h.skip f) (by omega) (by omega) none).mono shorter
  · rw [codeHere?]
    · rfl
    · rintro rest rfl
      exact other rfl

/-- The code of a character is read alike, in braces or with a fixed number of digits. -/
lemma readCode?_reads (f : Flags) (letter : Char) : Reads (readCode? f letter) :=
  (codeHere?_reads f letter).skip f

/-- The name of a property in braces is read alike; a brace is missing before the parenthesis. -/
lemma readUpToBrace?_agree (f : Flags) {cs cs' : List Char} (h : Trailed cs cs') {n m : Nat}
    (hn : cs.length < n) (hm : cs'.length < m) :
    Agree cs.length (readUpToBrace? f n cs) (readUpToBrace? f m cs') := by
  induction n generalizing m cs cs' with
  | zero => omega
  | succ n ih =>
      obtain ⟨m, rfl⟩ : ∃ k, m = k + 1 := ⟨m - 1, by omega⟩
      rcases h.cases_head with ⟨rfl, rfl⟩ | ⟨rfl, rfl⟩ | ⟨c, rest, rfl, rfl⟩
      · exact .failed
      · have ends : readUpToBrace? f (m + 1) [')'] = none := by
          rw [readUpToBrace?, skip_nil]
          · cases m <;> rfl
          · decide
        rw [ends]
        exact .failed
      · have later := (Trailed.seen rest).skip f
        have shorter := length_skip_le f rest
        have shorter' := length_skip_le f (rest ++ [')'])
        simp only [List.length_cons] at hn hm
        by_cases closes : c = '\x7d'
        · subst closes
          exact .read [] (.seen rest) (Nat.le_succ _)
        · have step (k : Nat) (tail : List Char) : readUpToBrace? f (k + 1) (c :: tail) =
              (readUpToBrace? f k (f.skip tail)).map fun r => (c :: r.1, r.2) := by
            rw [readUpToBrace?]
            · cases readUpToBrace? f k (f.skip tail) <;> rfl
            · exact closes
          rw [step, step]
          exact (ih later (by omega) (by omega)).map.mono (shorter.trans (Nat.le_succ _))

lemma propertyHere?_reads (f : Flags) (negated : Bool) : Reads (propertyHere? f negated) := by
  refine Reads.head rfl fun c => ?_
  simp only [propertyHere?]
  split_ifs
  · exact Reads.fail
  · refine Reads.bind ⟨fun {rest rest'} h => ?_⟩ fun name =>
      Reads.given (namedProperty? f negated name) fun s => Reads.done (Escape.set s)
    have shorter := length_skip_le f rest
    have shorter' := length_skip_le f rest'
    exact (readUpToBrace?_agree f (h.skip f) (by omega) (by omega)).mono shorter
  · exact Reads.given _ fun s => (Reads.done (Escape.set s)).skip f

/-- A property of characters is read alike. -/
lemma readProperty?_reads (f : Flags) (negated : Bool) : Reads (readProperty? f negated) :=
  (propertyHere?_reads f negated).skip f

/-- Characters of a kind that the parenthesis is not of are read alike. -/
lemma readWhile_agree (f : Flags) {kind : Char → Bool} (hk : kind ')' = false)
    {cs cs' : List Char} (h : Trailed cs cs') {n m : Nat} (hn : cs.length ≤ n)
    (hm : cs'.length ≤ m) :
    Agree cs.length (some (readWhile f kind n cs)) (some (readWhile f kind m cs')) := by
  have ended (k : Nat) : readWhile f kind k [] = ([], []) := by cases k <;> rfl
  induction n generalizing m cs cs' with
  | zero =>
      obtain rfl : cs = [] := List.eq_nil_of_length_eq_zero (Nat.le_zero.mp hn)
      have closed : readWhile f kind m cs' = ([], cs') := by
        rcases h.cases_head with ⟨-, rfl⟩ | ⟨-, rfl⟩ | ⟨c, rest, eq, -⟩
        · exact ended m
        · cases m <;> simp [readWhile, hk]
        · cases eq
      rw [closed]
      exact .read [] h le_rfl
  | succ n ih =>
      rcases h.cases_head with ⟨rfl, rfl⟩ | ⟨rfl, rfl⟩ | ⟨c, rest, rfl, rfl⟩
      · rw [ended, ended]
        exact .read [] h le_rfl
      · have closed : readWhile f kind m [')'] = ([], [')']) := by
          cases m <;> simp [readWhile, hk]
        rw [ended, closed]
        exact .read [] h le_rfl
      · obtain ⟨m, rfl⟩ : ∃ k, m = k + 1 := ⟨m - 1, by simp at hm; omega⟩
        have later := (Trailed.seen rest).skip f
        have shorter := length_skip_le f rest
        have shorter' := length_skip_le f (rest ++ [')'])
        simp only [List.length_cons] at hn hm
        by_cases goes : kind c
        · have step (k : Nat) (tail : List Char) : some (readWhile f kind (k + 1) (c :: tail)) =
              (some (readWhile f kind k (f.skip tail))).map fun r => (c :: r.1, r.2) := by
            rw [readWhile, if_pos goes]
            rfl
          rw [step, step]
          exact (ih later (by omega) (by omega)).map.mono (shorter.trans (Nat.le_succ _))
        · rw [readWhile, readWhile, if_neg goes, if_neg goes]
          exact .read [] (.seen (c :: rest)) le_rfl

/-- The name of a word boundary is read alike, up to its closing brace. -/
lemma readBoundaryName?_reads (f : Flags) : Reads (readBoundaryName? f) := by
  have name : Reads fun cs => some (readWhile f isBoundaryChar cs.length cs) :=
    ⟨fun h => readWhile_agree f (by decide) h le_rfl le_rfl⟩
  refine name.bind (k := fun r => boundaryEnd? f r.1 r.2) fun name => Reads.head rfl fun c => ?_
  simp only [boundaryEnd?]
  split_ifs
  · exact Reads.check _ Escape.anchor
  · exact Reads.fail

/-- **A word boundary that is cut off** behind its opening brace: with the parenthesis, the brace
opens a repetition, which has no bounds then. -/
def CutOff (f : Flags) (x y : Option (Escape × List Char)) : Prop :=
  x = none ∧ ∃ inner, y = some (.anchor (.word f.ascii), '\x7b' :: inner) ∧ f.skip inner = [')']

/-- A word boundary is read alike, unless it is cut off behind its opening brace. -/
lemma readBoundary?_agree (f : Flags) {cs cs' : List Char} (h : Trailed cs cs') :
    Agree cs.length (readBoundary? f cs) (readBoundary? f cs') ∨
      CutOff f (readBoundary? f cs) (readBoundary? f cs') := by
  rcases h.cases_head with ⟨rfl, rfl⟩ | ⟨rfl, rfl⟩ | ⟨c, rest, rfl, rfl⟩
  · exact Or.inl (.read _ h le_rfl)
  · exact Or.inl (.read _ h le_rfl)
  · by_cases brace : c = '\x7b'
    · subst brace
      have later := (Trailed.seen rest).skip f
      have shorter := length_skip_le f rest
      simp only [readBoundary?]
      generalize hy : f.skip (rest ++ [')']) = ys at later
      generalize f.skip rest = xs at later shorter
      rcases later.cases_head with ⟨rfl, rfl⟩ | ⟨rfl, rfl⟩ | ⟨d, tail, rfl, rfl⟩
      · exact Or.inl .failed
      · exact Or.inr ⟨rfl, rest ++ [')'], rfl, hy⟩
      · left
        dsimp only
        split_ifs
        · exact ((readBoundaryName?_reads f).agree (.seen (d :: tail))).mono
            (shorter.trans (Nat.le_succ _))
        · exact .read _ (.seen ('\x7b' :: rest)) le_rfl
    · have word (tail : List Char) : readBoundary? f (c :: tail) =
          some (.anchor (.word f.ascii), c :: tail) := by
        rw [readBoundary?]
        rintro inner ⟨⟩
        exact brace rfl
      rw [word, word]
      exact Or.inl (.read _ (.seen (c :: rest)) le_rfl)

/-- What a backslash begins is read alike, but for word boundaries. -/
lemma readEscape?_reads (f : Flags) {c : Char} (hc : c ≠ 'b') :
    Reads fun rest => readEscape? f (c :: rest) := by
  simp only [readEscape?]
  split_ifs
  · exact Reads.fail
  · exact readCode?_reads f c
  · exact readProperty?_reads f _
  · exact Reads.check (f.classLetter? c) Escape.set
  · exact Reads.done _
  · split
    all_goals first
      | exact Reads.done _
      | exact Reads.fail
      | exact absurd rfl hc

lemma readEscape?_b (f : Flags) (rest : List Char) :
    readEscape? f ('b' :: rest) = readBoundary? f rest := by
  rfl

/-- **An escape**, unless it is a word boundary that is cut off. -/
lemma readEscape?_agree (f : Flags) {cs cs' : List Char} (h : Trailed cs cs') :
    Agree cs.length (readEscape? f cs) (readEscape? f cs') ∨
      CutOff f (readEscape? f cs) (readEscape? f cs') := by
  rcases h.cases_head with ⟨rfl, rfl⟩ | ⟨rfl, rfl⟩ | ⟨c, rest, rfl, rfl⟩
  · exact Or.inl .failed
  · exact Or.inl (.completed _)
  · by_cases hc : c = 'b'
    · subst hc
      rw [readEscape?_b, readEscape?_b]
      exact (readBoundary?_agree f (.seen rest)).imp_left fun h => h.mono (Nat.le_succ _)
    · exact Or.inl (((readEscape?_reads f hc).agree (.seen rest)).mono (Nat.le_succ _))

/-! ## Classes -/

/-- **A part of a class**, behind whose first character the text goes on. -/
lemma readClassPart?_agree (f : Flags) (c : Char) (rest : List Char) :
    Agree rest.length (readClassPart? f (c :: rest)) (readClassPart? f (c :: (rest ++ [')']))) ∨
      CutOff f (readClassPart? f (c :: rest)) (readClassPart? f (c :: (rest ++ [')']))) := by
  by_cases escape : c = '\\'
  · subst escape
    exact readEscape?_agree f (.seen rest)
  · have literal (tail : List Char) :
        readClassPart? f (c :: tail) = some (.literal c false, tail) := by
      rw [readClassPart?]
      exact escape
    rw [literal, literal]
    exact Or.inl (.read _ (.seen rest) le_rfl)

/-- A range does not begin with an anchor. -/
lemma rangeEnd?_anchor (f : Flags) (a : Anchor) (cs : List Char) :
    rangeEnd? f (.anchor a) cs = none := by
  rw [rangeEnd?]
  split
  · rfl
  · split
    · rfl
    · cases readClassPart? f _ <;> rfl

/-- A word boundary is no part of a class. -/
lemma rangeHere?_anchor (f : Flags) (a : Anchor) (cs : List Char) :
    rangeHere? f (.anchor a) cs = none := by
  unfold rangeHere?
  split
  · exact rangeEnd?_anchor f a _
  · rfl

/-- The end of a range is read alike; a parenthesis may be one. -/
lemma rangeEnd?_agree (f : Flags) (part : Escape) (cs : List Char) :
    Agree (cs.length + 1) (rangeEnd? f part cs) (rangeEnd? f part (cs ++ [')'])) := by
  have later := (Trailed.seen cs).skip f
  have shorter := length_skip_le f cs
  have range (last : Escape) : Reads fun rest => (part.char? f).bind fun a =>
      (last.char? f).bind fun b => if a ≤ b then some (CharSet.between a b, rest) else none :=
    Reads.given _ fun a => Reads.given _ fun b => by
      split_ifs
      · exact Reads.done _
      · exact Reads.fail
  simp only [rangeEnd?]
  generalize f.skip (cs ++ [')']) = ys at later
  generalize f.skip cs = xs at later shorter
  rcases later.cases_head with ⟨rfl, rfl⟩ | ⟨rfl, rfl⟩ | ⟨c, tail, rfl, rfl⟩
  · exact .failed
  · exact Agree.none_iff_spent.mpr ((range (.literal ')' false)).agree .overlooked).spent
  · dsimp only
    split_ifs
    · exact .check (part.set? f) id (.seen ('-' :: cs)) le_rfl
    · simp only [List.length_cons] at shorter
      rcases readClassPart?_agree f c tail with alike | ⟨absent, inner, present, -⟩
      · exact (alike.bind fun last _ _ later less => ((range last).agree later).mono less).mono
          (by omega)
      · rw [absent, present]
        cases part.char? f <;> exact .failed

/-- A range or a single character of a class is read alike. -/
lemma rangeHere?_reads (f : Flags) (part : Escape) : Reads (rangeHere? f part) := by
  refine ⟨fun trailed => ?_⟩
  rcases trailed.cases_head with ⟨rfl, rfl⟩ | ⟨rfl, rfl⟩ | ⟨c, rest, rfl, rfl⟩
  · exact .check (part.set? f) id trailed le_rfl
  · exact .check (part.set? f) id trailed le_rfl
  · by_cases range : c = '-'
    · subst range
      exact rangeEnd?_agree f part rest
    · have alone (tail : List Char) :
          rangeHere? f part (c :: tail) = (part.set? f).map fun s => (s, c :: tail) := by
        rw [rangeHere?]
        rintro rest ⟨⟩
        exact range rfl
      rw [alone, alone]
      exact .check (part.set? f) id trailed le_rfl

/-- **A part of a class or a range**, behind whose first character the text goes on. -/
lemma readClassRange?_agree (f : Flags) (c : Char) (rest : List Char) :
    Agree rest.length (readClassRange? f (c :: rest))
      (readClassRange? f (c :: (rest ++ [')']))) := by
  rcases readClassPart?_agree f c rest with alike | ⟨absent, inner, present, -⟩
  · exact alike.bind fun part _ _ later shorter =>
      (((rangeHere?_reads f part).skip f).agree later).mono shorter
  · have cut : readClassRange? f (c :: (rest ++ [')'])) = none := by
      rw [readClassRange?, present]
      exact rangeHere?_anchor f _ _
    rw [cut, readClassRange?, absent]
    exact .failed

/-- To read up to a character makes the parenthesis a part of what is left. -/
lemma readUpTo?_append {stop : Char} (hs : stop ≠ ')') (cs : List Char) :
    readUpTo? stop (cs ++ [')']) = (readUpTo? stop cs).map fun r => (r.1, r.2 ++ [')']) := by
  induction cs with
  | nil => simp [readUpTo?, hs.symm]
  | cons c rest ih =>
      simp only [readUpTo?, List.cons_append]
      split_ifs
      · rfl
      · rw [ih]
        cases readUpTo? stop rest <;> rfl

lemma readNegation_append (cs : List Char) :
    readNegation (cs ++ [')']) = ((readNegation cs).1, (readNegation cs).2 ++ [')']) := by
  rcases cs with _ | ⟨c, rest⟩
  · rfl
  · by_cases negated : c = '^'
    · subst negated
      rfl
    · have plain (tail : List Char) : readNegation (c :: tail) = (false, c :: tail) := by
        rw [readNegation]
        rintro rest ⟨⟩
        exact negated rfl
      rw [List.cons_append, plain, plain]
      rfl

lemma asciiClassHere?_append (negated : Bool) (cs : List Char) :
    asciiClassHere? negated (cs ++ [')']) =
      (asciiClassHere? negated cs).map fun r => (r.1, r.2 ++ [')']) := by
  rw [asciiClassHere?, asciiClassHere?, readUpTo?_append (by decide)]
  rcases readUpTo? ':' cs with _ | ⟨name, _ | ⟨c, rest⟩⟩
  · rfl
  · rfl
  · by_cases closes : c = ']'
    · subst closes
      dsimp only [Option.map_some, Option.bind_eq_bind, Option.bind_some, List.cons_append]
      cases Flags.asciiClassNamed? (String.ofList name) <;> rfl
    · simp [closes]

/-- A class with a name of its own does not see the parenthesis. -/
lemma asciiClass?_append (cs : List Char) :
    asciiClass? (cs ++ [')']) = (asciiClass? cs).map fun r => (r.1, r.2 ++ [')']) := by
  rcases cs with _ | ⟨c, rest⟩
  · rfl
  · by_cases named : c = ':'
    · subst named
      simp only [asciiClass?, List.cons_append]
      rw [readNegation_append, asciiClassHere?_append]
    · simp [asciiClass?, named]

lemma readOperation?_append (cs : List Char) :
    readOperation? (cs ++ [')']) = (readOperation? cs).map fun r => (r.1, r.2 ++ [')']) := by
  rcases cs with _ | ⟨c, _ | ⟨d, rest⟩⟩
  · rfl
  · simp [readOperation?]
  · simp only [readOperation?, List.cons_append]
    split <;> simp_all

lemma length_readUpTo?_le {stop : Char} {cs name rest : List Char}
    (h : readUpTo? stop cs = some (name, rest)) : rest.length ≤ cs.length := by
  induction cs generalizing name with
  | nil => cases h
  | cons c tail ih =>
      rw [readUpTo?] at h
      split at h
      · cases h
        exact Nat.le_succ _
      · obtain ⟨⟨name', rest'⟩, found, eq⟩ := Option.map_eq_some_iff.mp h
        cases eq
        exact (ih found).trans (Nat.le_succ _)

lemma length_readNegation_le (cs : List Char) : (readNegation cs).2.length ≤ cs.length := by
  rw [readNegation.eq_def]
  split
  · exact Nat.le_succ _
  · exact le_rfl

lemma length_asciiClass?_le {cs rest : List Char} {s : CharSet × Bool}
    (h : asciiClass? cs = some (s, rest)) : rest.length ≤ cs.length := by
  rw [asciiClass?.eq_def] at h
  split at h
  · rename_i tail
    obtain ⟨⟨name, behind⟩, found, h⟩ := Option.bind_eq_some_iff.mp h
    have shorter := length_readUpTo?_le found
    have negation := length_readNegation_le tail
    dsimp only at h
    split at h
    · obtain ⟨t, -, eq⟩ := Option.map_eq_some_iff.mp h
      cases eq
      simp only [List.length_cons] at shorter ⊢
      omega
    · cases h
  · cases h

lemma length_readOperation?_lt {cs rest : List Char} {op : SetOperation}
    (h : readOperation? cs = some (op, rest)) : rest.length + 2 = cs.length := by
  rw [readOperation?.eq_def] at h
  split at h
  all_goals cases h
  all_goals rfl

/-- At the end of the text nothing opens a class any more. -/
lemma readClassOpening_end (f : Flags) (n : Nat) (first : Bool) (s : CharSet) {cs : List Char}
    (h : cs = [] ∨ cs = [')']) : readClassOpening f n first s cs = (s, cs) := by
  rcases h with rfl | rfl <;> cases n <;> simp [readClassOpening]

/-- The first characters of a class, which stand for themselves, are read alike. -/
lemma readClassOpening_agree (f : Flags) {cs cs' : List Char} (h : Trailed cs cs') {n m : Nat}
    (hn : cs.length ≤ n) (hm : cs'.length ≤ m) (first : Bool) (s : CharSet) :
    Agree cs.length (some (readClassOpening f n first s cs))
      (some (readClassOpening f m first s cs')) := by
  induction n generalizing m cs cs' first s with
  | zero =>
      obtain rfl : cs = [] := List.eq_nil_of_length_eq_zero (Nat.le_zero.mp hn)
      have closed : cs' = [] ∨ cs' = [')'] := by cases h <;> simp
      rw [readClassOpening_end f 0 first s (.inl rfl), readClassOpening_end f m first s closed]
      exact .read s h le_rfl
  | succ n ih =>
      rcases h.cases_head with ⟨rfl, rfl⟩ | ⟨rfl, rfl⟩ | ⟨c, rest, rfl, rfl⟩
      · rw [readClassOpening_end f _ first s (.inl rfl),
          readClassOpening_end f m first s (.inl rfl)]
        exact .read s h le_rfl
      · rw [readClassOpening_end f _ first s (.inl rfl),
          readClassOpening_end f m first s (.inr rfl)]
        exact .read s h le_rfl
      · obtain ⟨m, rfl⟩ : ∃ k, m = k + 1 := ⟨m - 1, by simp at hm; omega⟩
        have later := (Trailed.seen rest).skip f
        have shorter := length_skip_le f rest
        have shorter' := length_skip_le f (rest ++ [')'])
        simp only [List.length_cons] at hn hm
        simp only [readClassOpening]
        split_ifs
        · exact (ih later (by omega) (by omega) _ _).mono (shorter.trans (Nat.le_succ _))
        · exact .read _ later (shorter.trans (Nat.le_succ _))
        · exact .read s h le_rfl

/-- A class is negated in both texts or in neither. -/
lemma Trailed.negation {cs cs' : List Char} (h : Trailed cs cs') :
    (readNegation cs').1 = (readNegation cs).1 ∧
      Trailed (readNegation cs).2 (readNegation cs').2 := by
  cases h with
  | seen => rw [readNegation_append]; exact ⟨rfl, .seen _⟩
  | overlooked => exact ⟨rfl, .overlooked⟩

/-! ### A class and its items -/

/-- The items of a class do not end with the text. -/
lemma readClassItems?_end (f : Flags) (n : Nat) (waiting : Option (CharSet × SetOperation))
    (s : CharSet) (depth : Nat) {cs : List Char} (h : f.skip cs = []) :
    readClassItems? f n waiting s depth cs = none := by
  cases n with
  | zero => rfl
  | succ n => rw [readClassItems?, h]

lemma readClass?_nil (f : Flags) (n : Nat) : readClass? f n [] = none := by
  cases n with
  | zero => rfl
  | succ n =>
      simp [readClass?, skip_nil, readNegation, readClassOpening,
        readClassItems?_end f n _ _ _ (skip_nil f)]

/-- The closing parenthesis is an item of a class, which is not closed behind it. -/
lemma readClassItems?_closing (f : Flags) (n : Nat) (waiting : Option (CharSet × SetOperation))
    (s : CharSet) (depth : Nat) {cs : List Char} (h : f.skip cs = [')']) :
    readClassItems? f n waiting s depth cs = none := by
  cases n with
  | zero => rfl
  | succ n =>
      have item : readClassRange? f [')'] =
          ((Escape.literal ')' false).set? f).map fun t => (t, []) := by
        simp [readClassRange?, readClassPart?, rangeHere?, skip_nil]
      rw [readClassItems?, h]
      simp only [readOperation?, item]
      cases (Escape.literal ')' false).set? f <;>
        simp [readClassItems?_end f n _ _ _ (skip_nil f)]

/-- A class, step by step. -/
lemma readClass?_succ (f : Flags) (n : Nat) (cs : List Char) :
    readClass? f (n + 1) cs =
      (some (readClassOpening f (f.skip (readNegation (f.skip cs)).2).length true .empty
        (f.skip (readNegation (f.skip cs)).2))).bind fun opening =>
          (readClassItems? f n none opening.1 0 opening.2).bind fun items =>
            (f.finish? (readNegation (f.skip cs)).1 items.1.1).bind fun s =>
              some ((s, items.1.2 + 1), items.2) := by
  rw [readClass?]
  rfl

/-- Reading a class goes on alike with less fuel, with the parenthesis and without. -/
def ClassOnward (f : Flags) (n m : Nat) : Prop :=
  ∀ {cs cs' : List Char}, Trailed cs cs' → 2 * cs.length < n → 2 * cs'.length < m →
    Agree cs.length (readClass? f n cs) (readClass? f m cs')

/-- So does reading the items of a class. -/
def ItemsOnward (f : Flags) (n m : Nat) : Prop :=
  ∀ {cs cs' : List Char} (waiting : Option (CharSet × SetOperation)) (s : CharSet) (depth : Nat),
    Trailed cs cs' → 2 * cs.length ≤ n → 2 * cs'.length ≤ m →
      Agree cs.length (readClassItems? f n waiting s depth cs)
        (readClassItems? f m waiting s depth cs')

section

variable {f : Flags} {n m : Nat}

/-- A class is read alike with one more step if its items are. -/
lemma classOnward_succ (items : ItemsOnward f n m) : ClassOnward f (n + 1) (m + 1) := by
  intro cs cs' h hn hm
  cases h with
  | overlooked =>
      rw [readClass?_nil, readClass?_nil]
      exact .failed
  | seen =>
      obtain ⟨same, negation⟩ := ((Trailed.seen cs).skip f).negation
      have shorter : (f.skip (readNegation (f.skip cs)).2).length ≤ cs.length :=
        (length_skip_le f _).trans ((length_readNegation_le _).trans (length_skip_le f cs))
      obtain ⟨alike, later, less⟩ :=
        (readClassOpening_agree f (negation.skip f) le_rfl le_rfl true .empty).of_some
      have longer := later.length_le
      simp only [List.length_append, List.length_singleton] at hm
      rw [readClass?_succ, readClass?_succ, same, Option.bind_some, Option.bind_some, alike]
      refine ((items none _ 0 later (by omega) (by omega)).mono (less.trans shorter)).bind
        fun read rest rest' h le => ?_
      exact ((Reads.given _ fun s => Reads.done (s, read.2 + 1)).agree h).mono le

/-- At the end of the text there are no items, nor is the parenthesis one. -/
lemma readClassItems?_agree_end {cs' : List Char} (h : Trailed [] cs')
    (waiting : Option (CharSet × SetOperation)) (s : CharSet) (depth : Nat) :
    Agree 0 (readClassItems? f n waiting s depth []) (readClassItems? f m waiting s depth cs') := by
  have closed : readClassItems? f m waiting s depth cs' = none := by
    cases h with
    | overlooked => exact readClassItems?_end f m waiting s depth (skip_nil f)
    | seen =>
        refine readClassItems?_closing f m waiting s depth ?_
        rw [Flags.skip]
        split <;> rfl
  rw [closed, readClassItems?_end f n waiting s depth (skip_nil f)]
  exact .failed

/-- Items are read alike with one more step, if the classes among them and the items behind are. -/
lemma itemsOnward_succ (inside : ClassOnward f n m) (items : ItemsOnward f n m) :
    ItemsOnward f (n + 1) (m + 1) := by
  intro cs cs' waiting s depth h hn hm
  have shorter := length_skip_le f cs
  have shorter' := length_skip_le f cs'
  have ends (w : Option (CharSet × SetOperation)) (s : CharSet) (d : Nat) :
      Spent (readClassItems? f m w s d []) := .inl (readClassItems?_end f m w s d (skip_nil f))
  rcases (h.skip f).cases_head with ⟨hx, hy⟩ | ⟨hx, hy⟩ | ⟨c, rest, hx, hy⟩
  · rw [readClassItems?_end f _ _ _ _ hx, readClassItems?_end f _ _ _ _ hy]
    exact .failed
  · rw [readClassItems?_end f _ _ _ _ hx, readClassItems?_closing f _ _ _ _ hy]
    exact .failed
  simp only [hx, hy, List.length_cons, List.length_append, List.length_nil] at shorter shorter'
  rw [readClassItems?, readClassItems?, hx, hy]
  dsimp only
  by_cases closes : c = ']'
  · rw [if_pos closes, if_pos closes]
    exact .read _ (.seen rest) (by omega)
  rw [if_neg closes, if_neg closes, ← List.cons_append, readOperation?_append]
  rcases operation : readOperation? (c :: rest) with _ | ⟨op, tail⟩
  · dsimp only [Option.map_none]
    by_cases opens : c = '['
    · rw [if_pos opens, if_pos opens, asciiClass?_append]
      rcases named : asciiClass? rest with _ | ⟨⟨t, negated⟩, tail⟩
      · have class_agree := inside (.seen rest) (by omega)
          (by rw [List.length_append, List.length_singleton]; omega)
        refine (class_agree.bind_both (fun a tail tail' later less => ?_)
          fun a => ends _ _ _).mono (by omega)
        have longer := later.length_le
        exact (items _ _ _ later (by omega) (by omega)).mono less
      · have less := length_asciiClass?_le named
        dsimp only [Option.map_some]
        cases f.finish? negated t with
        | none => exact .failed
        | some t =>
            refine (items _ _ _ (.seen tail) (by omega) ?_).mono (by omega)
            rw [List.length_append, List.length_singleton]
            omega
    · rw [if_neg opens, if_neg opens, List.cons_append]
      refine ((readClassRange?_agree f c rest).bind_both (fun a tail tail' later less => ?_)
        fun a => ends _ _ _).mono (by omega)
      have longer := later.length_le
      exact (items _ _ _ later (by omega) (by omega)).mono less
  · have less := length_readOperation?_lt operation
    simp only [List.length_cons] at less
    refine (items _ _ _ (.seen tail) (by omega) ?_).mono (by omega)
    rw [List.length_append, List.length_singleton]
    omega

end

/-- Classes and their items are read alike, by induction on the fuel for both at once. -/
lemma readClass?_onward (f : Flags) (n m : Nat) : ClassOnward f n m ∧ ItemsOnward f n m := by
  induction n generalizing m with
  | zero =>
      refine ⟨fun _ hn => absurd hn (Nat.not_lt_zero _), fun {cs cs'} waiting s depth h hn _ => ?_⟩
      obtain rfl : cs = [] := List.eq_nil_of_length_eq_zero (by omega)
      exact readClassItems?_agree_end h waiting s depth
  | succ n ih =>
      cases m with
      | zero =>
          refine ⟨fun _ _ hm => absurd hm (Nat.not_lt_zero _), fun waiting s depth h _ hm => ?_⟩
          rcases h.cases_head with ⟨rfl, rfl⟩ | ⟨rfl, rfl⟩ | ⟨c, rest, rfl, rfl⟩
          · exact readClassItems?_agree_end h waiting s depth
          · exact readClassItems?_agree_end h waiting s depth
          · simp at hm
      | succ m => exact ⟨classOnward_succ (ih m).2, itemsOnward_succ (ih m).1 (ih m).2⟩

/-- **A bracketed class** behind its opening bracket. -/
lemma readClass?_reads (f : Flags) : Reads fun cs => readClass? f (2 * cs.length + 1) cs :=
  ⟨fun h => (readClass?_onward f _ _).1 h (Nat.lt_succ_self _) (Nat.lt_succ_self _)⟩

end Connector.Regex
