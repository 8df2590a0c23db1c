import Connector.Proofs.Template.Sole

/-!
# An output of a name with text around it

What `printing name` compiles to, alone and between two literal texts.

* `findInset_append`, `ofTemplate_around` — text up to the first inset is one token.
* `read?_around` — the tokens of text and the output between them are one statement each.
* `compile_printing` — alone, the output is the expression of the whole source.
* `soleExpression?_around` — further text makes the source a text, but for one brace right behind
  the output, which the closing braces of the source would begin with.
* `compile_around` — the three statements of text, output and text.
-/

namespace Connector.Template

open Reader
open Connector.Template.Token (findInset isInsetBlank opensInset? plainToken)

/-! ## Text without insets -/

/-- Two characters decide whether an inset begins. -/
lemma opensInset?_of_two (c d : Char) (x y : List Char) :
    opensInset? (c :: d :: x) = opensInset? (c :: d :: y) := by
  unfold opensInset?
  split <;> split <;> simp_all

/-- A text without an inset is all in front of it. -/
lemma findInset_of_none {cs : List Char} (h : (findInset cs).2 = none) :
    findInset cs = (cs, none) := by
  induction cs with
  | nil => rfl
  | cons c cs ih =>
    rw [findInset] at h ⊢
    cases hopens : opensInset? (c :: cs) with
    | some inset =>
      rw [hopens] at h
      cases h
    | none =>
      rw [hopens] at h
      simp only [ih h]

/-- The first inset begins where the text before it ends. -/
lemma findInset_append {before : List Char} (h : (findInset (before ++ ['\x7b'])).2 = none)
    (rest : List Char) :
    findInset (before ++ '\x7b' :: '\x7b' :: rest) = (before, some (.output, rest)) := by
  induction before with
  | nil => rfl
  | cons c before ih =>
    rw [List.cons_append, findInset] at h ⊢
    have hsame : opensInset? (c :: (before ++ '\x7b' :: '\x7b' :: rest)) =
        opensInset? (c :: (before ++ ['\x7b'])) := by
      cases before with
      | nil => exact opensInset?_of_two _ _ _ _
      | cons d before => exact opensInset?_of_two _ _ _ _
    rw [hsame]
    cases hopens : opensInset? (c :: (before ++ ['\x7b'])) with
    | some inset =>
      rw [hopens] at h
      cases h
    | none =>
      rw [hopens] at h
      simp only [ih h]

/-- The beginning of a text without insets is one, too. -/
lemma findInset_front {x y : List Char} (hfront : x <+: y) (h : (findInset y).2 = none) :
    (findInset x).2 = none := by
  obtain ⟨rest, rfl⟩ := hfront
  induction x with
  | nil => rfl
  | cons c x ih =>
    rw [List.cons_append, findInset] at h
    rw [findInset]
    cases hopens : opensInset? (c :: (x ++ rest)) with
    | some inset =>
      rw [hopens] at h
      cases h
    | none =>
      rw [hopens] at h
      have : opensInset? (c :: x) = none := by
        cases x with
        | nil =>
          unfold opensInset?
          split <;> first | rfl | next heq => simp at heq
        | cons d x => rw [← hopens]; exact opensInset?_of_two _ _ _ _
      rw [this]
      exact ih h

/-- What is dropped at the end of a source is a line break. -/
lemma dropLineEnd_split (cs : List Char) :
    ∃ ends, cs = Token.dropLineEnd cs ++ ends ∧ '\x7d' ∉ ends := by
  have hsplit : ∀ ends rest : List Char, cs.reverse = ends ++ rest →
      cs = rest.reverse ++ ends.reverse := by
    intro ends rest h
    rw [← List.reverse_append, ← h, List.reverse_reverse]
  unfold Token.dropLineEnd
  split
  · next rest heq => exact ⟨_, hsplit ['\n', '\r'] rest heq, by decide⟩
  · next rest _ heq => exact ⟨_, hsplit ['\n'] rest heq, by decide⟩
  · next rest heq => exact ⟨_, hsplit ['\r'] rest heq, by decide⟩
  · exact ⟨[], by simp, by simp⟩

/-- A line break at the end belongs to what stands behind the last brace. -/
lemma dropLineEnd_append {before : List Char} (hbefore : before.getLast? = some '\x7d')
    (after : List Char) :
    ∃ after', Token.dropLineEnd (before ++ after) = before ++ after' ∧ after' <+: after := by
  obtain ⟨ends, hsplit, hends⟩ := dropLineEnd_split (before ++ after)
  rcases List.append_eq_append_iff.mp hsplit with ⟨after', hdrop, hafter⟩ | ⟨more, hmore, hrest⟩
  · exact ⟨after', hdrop, ends, hafter.symm⟩
  · cases more.eq_nil_or_concat with
    | inl hnil =>
      subst hnil
      exact ⟨[], by rw [List.append_nil] at hmore ⊢; exact hmore.symm, List.nil_prefix⟩
    | inr hconcat =>
      obtain ⟨more, c, rfl⟩ := hconcat
      rw [hmore, List.getLast?_append] at hbefore
      have hc : c = '\x7d' := by simpa using hbefore
      exact absurd (by simp [hrest, hc]) hends

/-! ## The tokens of a printed name -/

/-- The spelling of an output of a name. -/
def outputOf (name : List Char) : List Char := "\x7b\x7b ".toList ++ name ++ " \x7d\x7d".toList

/-- A text without an inset is one token, or none if it is empty. -/
lemma scan_text {cs : List Char} (h : (findInset cs).2 = none) (fuel : Nat) :
    Token.scan (fuel + 1) (.text .keep) cs = plainToken cs := by
  rw [Token.scan, if_neg (by decide)]
  simp only [findInset_of_none h]

lemma ne_of_startsName {c d : Char} (hc : Token.startsName c) (hd : Token.startsName d = false) :
    c ≠ d := by
  rintro rfl
  rw [hc] at hd
  cases hd

/-- A name does not start with a blank. -/
lemma not_isInsetBlank_of_startsName {c : Char} (hc : Token.startsName c) :
    isInsetBlank c = false := by
  simp [isInsetBlank, ne_of_startsName hc (d := ' ') rfl, ne_of_startsName hc (d := '\t') rfl,
    ne_of_startsName hc (d := '\n') rfl, ne_of_startsName hc (d := '\r') rfl,
    ne_of_startsName hc (d := '\x0c') rfl]

/-- The tokens of a name that is an expression by itself. -/
lemma ofExpression_name {c : Char} {cs : List Char} (hc : Token.startsName c)
    (hcs : ∀ d ∈ cs, Token.continuesName d) {name : String} (hname : name.toList = c :: cs) :
    Token.ofExpression name = [.name name] := by
  have hread := Token.readToken_name hc hcs [] nofun
  rw [List.append_nil] at hread
  rw [Token.ofExpression, hname,
    Token.scan_token (not_isInsetBlank_of_startsName hc) rfl hread trivial, Token.scan_nil, ← hname,
    String.ofList_toList]

/-- The tokens from a name up to the end of its output, and what comes behind. -/
lemma scan_name {c : Char} {cs : List Char} (hc : Token.startsName c)
    (hcs : ∀ d ∈ cs, Token.continuesName d) (rest : List Char) (fuel : Nat) :
    Token.scan (fuel + 2) (.inset (some .output) 0)
      (' ' :: (c :: cs ++ ' ' :: '\x7d' :: '\x7d' :: rest)) =
      .name (String.ofList (c :: cs)) :: .closeOutput :: Token.scan fuel (.text .keep) rest := by
  have hend : Token.outputEnd? (c :: (cs ++ ' ' :: '\x7d' :: '\x7d' :: rest)) = none := by
    unfold Token.outputEnd?
    split
    · next heq => exact absurd (List.cons.inj heq).1 (ne_of_startsName hc rfl)
    · next heq => exact absurd (List.cons.inj heq).1 (ne_of_startsName hc rfl)
    · rfl
  have hinset : Token.insetEnd? (some .output) 0
      (c :: (cs ++ ' ' :: '\x7d' :: '\x7d' :: rest)) = none := by
    rw [Token.insetEnd?, if_neg (by decide), hend]
    rfl
  have hread := Token.readToken_name hc hcs (' ' :: '\x7d' :: '\x7d' :: rest) (by
    rintro d ⟨⟩
    rfl)
  have hclose : Token.scan (fuel + 1) (.inset (some .output) 0) (' ' :: '\x7d' :: '\x7d' :: rest) =
      .closeOutput :: Token.scan fuel (.text .keep) rest := rfl
  have hopen : (' ' :: (c :: cs ++ ' ' :: '\x7d' :: '\x7d' :: rest)).dropWhile isInsetBlank =
      (c :: (cs ++ ' ' :: '\x7d' :: '\x7d' :: rest)).dropWhile isInsetBlank := rfl
  rw [Token.scan_inset_congr hopen,
    Token.scan_token (not_isInsetBlank_of_startsName hc) hinset hread trivial]
  exact congrArg _ hclose

/-- The tokens of text around an output of a name. -/
lemma ofTemplate_around {c : Char} {cs before after : List Char} (hc : Token.startsName c)
    (hcs : ∀ d ∈ cs, Token.continuesName d) (hbefore : (findInset (before ++ ['\x7b'])).2 = none)
    (hafter : (findInset after).2 = none) {source : String}
    (hsource : source.toList = before ++ outputOf (c :: cs) ++ after) :
    ∃ after' : List Char, Token.ofTemplate source = plainToken before ++
      .openOutput :: .name (String.ofList (c :: cs)) :: .closeOutput :: plainToken after' := by
  have hlast : (before ++ outputOf (c :: cs)).getLast? = some '\x7d' := by
    rw [outputOf, List.getLast?_append, List.getLast?_append]
    rfl
  obtain ⟨after', hline, hfront⟩ := dropLineEnd_append hlast after
  refine ⟨after', ?_⟩
  have hshape : before ++ outputOf (c :: cs) ++ after' =
      before ++ '\x7b' :: '\x7b' :: ' ' :: (c :: cs ++ ' ' :: '\x7d' :: '\x7d' :: after') := by
    simp [outputOf]
  rw [Token.ofTemplate, hsource, hline, hshape]
  generalize hfuel : (before ++ '\x7b' :: '\x7b' :: ' ' ::
    (c :: cs ++ ' ' :: '\x7d' :: '\x7d' :: after')).length = n
  obtain ⟨fuel, rfl⟩ : ∃ k, n = k + 2 := by
    simp only [List.length_append, List.length_cons] at hfuel
    exact ⟨n - 2, by omega⟩
  rw [Token.scan, if_neg (by decide), findInset_append hbefore]
  have htrim : Token.openingTrim (' ' :: (c :: cs ++ ' ' :: '\x7d' :: '\x7d' :: after')) =
      (.keep, ' ' :: (c :: cs ++ ' ' :: '\x7d' :: '\x7d' :: after')) := rfl
  simp only [htrim]
  rw [scan_name hc hcs, scan_text (findInset_front hfront hafter)]
  rfl

/-! ## The statements of a printed name -/

/-- The statement of plain text, unless there is none. -/
def plainStmt (cs : List Char) : List Stmt := if cs.isEmpty then [] else [.plain (String.ofList cs)]

@[simp] lemma reverse_plainStmt (cs : List Char) : (plainStmt cs).reverse = plainStmt cs := by
  cases cs <;> rfl

lemma mem_plainStmt (cs : List Char) : ∀ s ∈ plainStmt cs, ∃ text, s = .plain text := by
  intro s hs
  rw [plainStmt] at hs
  split at hs
  · cases hs
  · exact ⟨_, List.mem_singleton.mp hs⟩

/-- The statements ahead, collected behind those found before. -/
def Collects (fuel : Nat) (found : List Stmt) (r : Reading) : Except Fault (List Stmt × Reading) :=
  (growing (collect (exprAt maxDepth) (stmtAt maxDepth) []) fuel found).run r

/-- A plain text is collected as it stands; an empty one leaves nothing. -/
lemma collects_plain {found : List Stmt} {cs : List Char} {ts : List Token} {r : Reading}
    {fuel : Nat} (hr : r.tokens = plainToken cs ++ ts) (hfuel : r.tokens.length ≤ fuel) :
    ∃ fuel', ts.length ≤ fuel' ∧
      Collects fuel found r = Collects fuel' (plainStmt cs ++ found) { r with tokens := ts } := by
  cases cs with
  | nil =>
    have hts : r.tokens = ts := hr
    subst hts
    exact ⟨fuel, hfuel, rfl⟩
  | cons c cs =>
    have hr : r.tokens = .plain (String.ofList (c :: cs)) :: ts := hr
    have hlength : r.tokens.length = ts.length + 1 := by rw [hr, List.length_cons]
    obtain ⟨fuel', rfl⟩ : ∃ n, fuel = n + 1 := ⟨fuel - 1, by omega⟩
    exact ⟨fuel', by omega, run_bind_ok (collect_plain hr)⟩

/-- The output of a name is collected as a statement. -/
lemma collects_name {name : String} (h : name ∉ keywords) {found : List Stmt} {ts : List Token}
    {r : Reading} {fuel : Nat} (hr : r.tokens = .openOutput :: .name name :: .closeOutput :: ts) :
    ∃ r' : Reading, r'.tokens = ts ∧
      Collects (fuel + 1) found r = Collects fuel (.output (.name name) :: found) r' := by
  obtain ⟨r', hrun, hend⟩ := readsAll_exprAt h { r with tokens := [.name name] } rfl
  have hreads : Reads ts Whole (exprAt maxDepth) := reads_exprAt maxDepth
  have hbeyond := (hreads { r with tokens := [.name name] }).beyond
  rw [hrun] at hbeyond
  refine ⟨{ r'.before (.closeOutput :: ts) with tokens := ts }, rfl, ?_⟩
  exact run_bind_ok (collect_output hr hbeyond (by simp [Reading.before, hend]))

/-- A text, the output of a name and a text are collected in their order. -/
lemma collects_around {name : String} (h : name ∉ keywords) {before after : List Char} {r : Reading}
    {fuel : Nat} (hr : r.tokens =
      plainToken before ++ .openOutput :: .name name :: .closeOutput :: plainToken after)
    (hfuel : r.tokens.length ≤ fuel) :
    ∃ r', Collects fuel [] r =
      .ok (plainStmt after ++ .output (.name name) :: plainStmt before, r') := by
  obtain ⟨fuel, hfuel, hbefore⟩ := collects_plain hr hfuel
  obtain ⟨fuel, rfl⟩ : ∃ n, fuel = n + 1 :=
    ⟨fuel - 1, by simp only [List.length_cons] at hfuel; omega⟩
  obtain ⟨r', hr', hname⟩ := collects_name h (r := { r with tokens := _ }) rfl
  rw [hbefore, hname]
  have hr' : r'.tokens = plainToken after ++ [] := by rw [hr', List.append_nil]
  simp only [List.length_cons] at hfuel
  have hfuel : r'.tokens.length ≤ fuel := by
    rw [hr', List.append_nil]
    omega
  obtain ⟨fuel', -, hafter⟩ := collects_plain hr' hfuel
  rw [hafter, List.append_nil]
  exact ⟨_, growing_end fuel' rfl⟩

/-- **A name is read with text around it.** -/
lemma read?_around {name : String} (h : name ∉ keywords) (before after : List Char) :
    Stmt.read? (plainToken before ++
        .openOutput :: .name name :: .closeOutput :: plainToken after) =
      .ok (plainStmt before ++ .output (.name name) :: plainStmt after) := by
  obtain ⟨r, hr⟩ := collects_around h (r := .of (plainToken before ++ .openOutput :: .name name ::
    .closeOutput :: plainToken after)) rfl (Nat.le_refl _)
  rw [Stmt.read?_eq]
  rw [Collects] at hr
  refine (congrArg _ hr).trans ?_
  simp [Except.map]

/-! ## Compiling a printed name -/

/-- A pair of characters is found wherever it stands. -/
lemma hasPair_append (a b : Char) (u v : List Char) :
    hasPair a b (u ++ a :: b :: v) = true := by
  induction u with
  | nil => simp [hasPair]
  | cons c u ih =>
    cases u with
    | nil =>
      rw [List.nil_append] at ih
      rw [List.singleton_append, hasPair, ih, Bool.or_true]
    | cons d u =>
      rw [List.cons_append] at ih
      rw [List.cons_append, List.cons_append, hasPair, ih, Bool.or_true]

/-- No pair is found without its first character. -/
lemma hasPair_of_not_mem {a : Char} (b : Char) {cs : List Char} (h : a ∉ cs) :
    hasPair a b cs = false := by
  induction cs with
  | nil => rfl
  | cons c cs ih =>
    rw [List.mem_cons, not_or] at h
    cases cs with
    | nil => rfl
    | cons d cs =>
      rw [hasPair, ih h.2, Bool.or_false]
      simp [Ne.symm h.1]

/-- Minus signs are stripped up to what is no minus sign. -/
lemma stripBoth_append {c d : Char} (hc : c ≠ '-') (hd : d ≠ '-') (cs after : List Char) :
    ∃ after', Text.stripBoth (· = '-') (c :: cs ++ [d] ++ after) = c :: cs ++ [d] ++ after' := by
  have hstart : (c :: cs ++ [d] ++ after).dropWhile (· = '-') = c :: cs ++ [d] ++ after := by
    simp [hc]
  have hkept : (c :: cs ++ [d]).reverse.dropWhile (· = '-') = (c :: cs ++ [d]).reverse := by
    simp [hd]
  rw [Text.stripBoth, hstart, List.reverse_append, List.dropWhile_append]
  split
  · exact ⟨[], by rw [hkept, List.reverse_reverse, List.append_nil]⟩
  · exact ⟨(after.reverse.dropWhile (· = '-')).reverse,
      by rw [List.reverse_append, List.reverse_reverse]⟩

/-- The letters, the digits and the underscore, by their numbers. -/
lemma Token.toNat_of_continuesName {c : Char} (h : Token.continuesName c) :
    48 ≤ c.toNat ∧ c.toNat ≤ 57 ∨ 65 ≤ c.toNat ∧ c.toNat ≤ 90 ∨ c.toNat = 95 ∨
      97 ≤ c.toNat ∧ c.toNat ≤ 122 := by
  simp only [Token.continuesName, Bool.or_eq_true, decide_eq_true_eq] at h
  rcases h with h | rfl
  · rcases Bool.or_eq_true_iff.mp h with h | h
    · have := Token.toNat_of_isAlpha h
      omega
    · exact .inl (Token.toNat_of_isDigit h)
  · exact .inr (.inr (.inl rfl))

/-- There is no blank in a name. -/
lemma Token.not_isBlank_of_continuesName {c : Char} (h : Token.continuesName c) :
    Text.isBlank c = false := by
  have := Token.toNat_of_continuesName h
  simp only [Text.isBlank, Bool.or_eq_false_iff, Bool.and_eq_false_iff, decide_eq_false_iff_not,
    beq_eq_false_iff_ne]
  omega

lemma IsName.continues {name : String} (h : IsName name) :
    ∀ c ∈ name.toList, Token.continuesName c := by
  obtain ⟨c, cs, hname, hc, hcs⟩ := h.starts
  rw [hname]
  intro d hd
  rcases List.mem_cons.mp hd with rfl | hd
  · exact Token.continuesName_of_startsName hc
  · exact hcs d hd

/-- A source that is an output of a name and nothing else. -/
def printing (name : String) : String := "\x7b\x7b " ++ name ++ " \x7d\x7d"

lemma toList_printing (name : String) :
    (printing name).toList =
      '\x7b' :: '\x7b' :: (' ' :: name.toList ++ [' '] ++ ['\x7d', '\x7d']) := by
  simp [printing]

/-- Nothing of a name is stripped. -/
lemma soleExpression?_printing {name : String} (h : IsName name) :
    soleExpression? (printing name) = some name := by
  have hbrace : ∀ c : Char, Token.continuesName c = false → c ≠ ' ' →
      c ∉ ' ' :: name.toList ++ [' '] := by
    intro c hc hspace hmem
    have hmem : c ∈ name.toList := by simpa [hspace] using hmem
    rw [h.continues c hmem] at hc
    cases hc
  have hblank : ∀ c ∈ name.toList, Text.isBlank c = false :=
    fun c hc => Token.not_isBlank_of_continuesName (h.continues c hc)
  have htrim : Text.dropEndBlanks ((' ' :: name.toList ++ [' ']).dropWhile Text.isBlank) =
      name.toList := by
    have hstart : (' ' :: name.toList ++ [' ']).dropWhile Text.isBlank =
        (name.toList ++ [' ']).dropWhile Text.isBlank := rfl
    obtain ⟨c, cs, hname, -⟩ := h.starts
    have hfirst : (name.toList ++ [' ']).dropWhile Text.isBlank = name.toList ++ [' '] := by
      rw [hname, List.cons_append,
        List.dropWhile_cons_of_neg (by simp [hblank c (by simp [hname])])]
    have hlast : (name.toList ++ [' ']).reverse = ' ' :: name.toList.reverse := by
      rw [List.reverse_append]
      rfl
    have hdrop : name.toList.reverse.dropWhile Text.isBlank = name.toList.reverse := by
      rw [List.dropWhile_eq_self_iff]
      intro hlength
      rw [hblank _ (List.mem_reverse.mp (List.getElem_mem hlength))]
      exact Bool.false_ne_true
    rw [hstart, hfirst, Text.dropEndBlanks, hlast, List.dropWhile_cons_of_pos rfl, hdrop,
      List.reverse_reverse]
  have hstrip : Text.stripBoth (· = '-') (' ' :: name.toList ++ [' ']) =
      ' ' :: name.toList ++ [' '] := by
    simp [Text.stripBoth]
  obtain ⟨c, cs, hname, -⟩ := h.starts
  rw [soleExpression?, betweenBraces?_eq_some.mpr (toList_printing name), Option.bind_eq_bind,
    Option.bind_some]
  simp only [hstrip, hasPair_of_not_mem _ (hbrace '\x7b' rfl (by decide)),
    hasPair_of_not_mem _ (hbrace '\x7d' rfl (by decide)), Bool.or_self, htrim]
  rw [if_neg (by decide), if_neg (by simp [hname]), String.ofList_toList]

/-- A text that starts with two braces has an inset. -/
lemma hasInset_of_starts {source : String} {cs : List Char}
    (h : source.toList = '\x7b' :: '\x7b' :: cs) : hasInset source = true := by
  rw [hasInset, h]
  rfl

/-- **An output of a name compiles to that name.** -/
lemma compile_printing {name : String} (h : IsName name) :
    compile (printing name) = .ok ⟨printing name, .expression name (.name name)⟩ := by
  obtain ⟨c, cs, hname, hc, hcs⟩ := h.starts
  have hread : Expr.read? (Token.ofExpression name) = .ok (.name name) := by
    rw [ofExpression_name hc hcs hname]
    exact Expr.read?_name h.notKeyword
  exact compile_sole (hasInset_of_starts (toList_printing name)) (soleExpression?_printing h) hread

/-- No two braces open a source that begins with other text. -/
lemma betweenBraces?_around {before : List Char}
    (hbefore : (findInset (before ++ ['\x7b'])).2 = none) (hsome : before ≠ [])
    (rest : List Char) : betweenBraces? (before ++ rest) = none := by
  cases hbraces : betweenBraces? (before ++ rest) with
  | none => rfl
  | some inner =>
    have hshape := betweenBraces?_eq_some.mp hbraces
    match before, hsome with
    | [c], _ =>
      obtain ⟨rfl, -⟩ := List.cons.inj hshape
      cases hbefore
    | c :: d :: before, _ =>
      obtain ⟨rfl, htail⟩ := List.cons.inj hshape
      obtain ⟨rfl, -⟩ := List.cons.inj htail
      cases hbefore

/-- A text that ends in a pair, by the part of it that is no shorter than the pair. -/
lemma exists_of_append_eq {a : Char} {x after y : List Char} (h : x ++ after = y ++ [a, a])
    (hsome : after ≠ []) (hone : after ≠ [a]) : ∃ rest, after = rest ++ [a, a] := by
  rcases List.append_eq_append_iff.mp h with ⟨more, -, hmore⟩ | ⟨more, -, hmore⟩
  · exact ⟨more, hmore⟩
  · -- The pair begins before the text.
    cases more with
    | nil => exact ⟨[], hmore.symm⟩
    | cons b more =>
      obtain ⟨rfl, htail⟩ := List.cons.inj hmore
      cases more with
      | nil => exact absurd htail.symm hone
      | cons c more =>
        obtain ⟨rfl, hnil⟩ := List.cons.inj htail
        exact absurd (List.append_eq_nil_iff.mp hnil.symm).2 hsome

/-- The closing braces of an output stand between those at the ends of the source, if there is
enough text behind it. -/
lemma soleExpression?_before {after : String} (name : String) (hsome : after ≠ "")
    (hbrace : after ≠ "\x7d") : soleExpression? (printing name ++ after) = none := by
  rw [soleExpression?]
  cases hbraces : betweenBraces? (printing name ++ after).toList with
  | none => rfl
  | some inner =>
    have hshape := betweenBraces?_eq_some.mp hbraces
    rw [String.toList_append, toList_printing] at hshape
    obtain ⟨rest, hafter⟩ := exists_of_append_eq (y := '\x7b' :: '\x7b' :: inner) hshape
      (fun h => hsome (String.toList_injective h)) (fun h => hbrace (String.toList_injective h))
    have hinner : inner ++ ['\x7d', '\x7d'] =
        (' ' :: (name.toList ++ [' ', '\x7d']) ++ ['\x7d'] ++ rest) ++ ['\x7d', '\x7d'] := by
      rw [hafter] at hshape
      simpa using hshape.symm
    have hinner := List.append_cancel_right hinner
    obtain ⟨rest', hstrip⟩ := stripBoth_append (c := ' ') (d := '\x7d') (by decide) (by decide)
      (name.toList ++ [' ', '\x7d']) rest
    have hpair : hasPair '\x7d' '\x7d' (Text.stripBoth (· = '-') inner) = true := by
      rw [hinner, hstrip]
      have := hasPair_append '\x7d' '\x7d' (' ' :: name.toList ++ [' ']) rest'
      simpa using this
    rw [Option.bind_eq_bind, Option.bind_some]
    simp only [hpair, Bool.or_true, Bool.true_or, if_true]

/-- Further text makes a source text, but for a brace that the closing ones would go on with. -/
lemma soleExpression?_around {before after : String} (name : String)
    (hbefore : hasInset (before ++ "\x7b") = false) (hsome : ¬ (before = "" ∧ after = ""))
    (hbrace : ¬ (before = "" ∧ after = "\x7d")) :
    soleExpression? (before ++ printing name ++ after) = none := by
  by_cases hempty : before = ""
  · subst hempty
    rw [String.empty_append]
    exact soleExpression?_before name (fun h => hsome ⟨rfl, h⟩) (fun h => hbrace ⟨rfl, h⟩)
  · have hfirst : before.toList ≠ [] := by simpa using hempty
    rw [soleExpression?, String.toList_append, String.toList_append, List.append_assoc,
      betweenBraces?_around (by simpa [hasInset] using hbefore) hfirst]
    rfl

/-- **A name with text around it compiles to the statements of both.** -/
lemma compile_around {name : String} (h : IsName name) {before after : String}
    (hbefore : hasInset (before ++ "\x7b") = false) (hafter : hasInset after = false)
    (hsome : ¬ (before = "" ∧ after = "")) (hbrace : ¬ (before = "" ∧ after = "\x7d")) :
    ∃ after', compile (before ++ printing name ++ after) =
      .ok ⟨before ++ printing name ++ after,
        .text (plainStmt before.toList ++ .output (.name name) :: plainStmt after')⟩ := by
  obtain ⟨c, cs, hname, hc, hcs⟩ := h.starts
  have hbefore' : (findInset (before.toList ++ ['\x7b'])).2 = none := by
    simpa [hasInset] using hbefore
  have hshape : (before ++ printing name ++ after).toList =
      before.toList ++ outputOf name.toList ++ after.toList := by
    simp [printing, outputOf]
  have hinset : hasInset (before ++ printing name ++ after) = true := by
    have hopen : before.toList ++ outputOf name.toList ++ after.toList = before.toList ++
        '\x7b' :: '\x7b' :: (' ' :: name.toList ++ " \x7d\x7d".toList ++ after.toList) := by
      simp [outputOf]
    rw [hasInset, hshape, hopen, findInset_append hbefore']
    rfl
  rw [hname] at hshape
  obtain ⟨after', htokens⟩ :=
    ofTemplate_around hc hcs hbefore' (by simpa [hasInset] using hafter) hshape
  refine ⟨after', compile_text hinset (soleExpression?_around name hbefore hsome hbrace) ?_⟩
  rw [htokens, ← hname, String.ofList_toList, read?_around h.notKeyword]

end Connector.Template
