import Connector.Proofs.Template.Scanning
import Connector.Proofs.Template.Names

/-!
# Sources that are one expression

Whether a source is an expression as a whole is told from its characters: what stands between the
braces at its ends is stripped of minus signs and blanks.  The grammar looks at its tokens instead,
and takes a minus sign at either end for the control of blanks.

* `PlainEnds`, `IsUnbroken` — the ends and the middle of a source where characters show what the
  grammar sees.
* `SoleOutput` — the grammar reads the whole source as one output.
* `exists_spelling` — a source with plain ends, cut where it is stripped.
* `faces_of_plain`, `sole_iff` — the tokens of the source against those of what is left of it.
* `render_plain` — the value of a source that is one output, and the text of every other one.
-/

namespace Connector.Template

open Token (IsEnding Faces isInsetBlank)

/-! ## Ends of a text -/

/-- A pair is found in the whole if it is found in a part. -/
lemma hasPair_prefix {a b : Char} {u v : List Char} (h : u <+: v) (hv : hasPair a b v = false) :
    hasPair a b u = false := by
  obtain ⟨behind, rfl⟩ := h
  induction u with
  | nil => rfl
  | cons c u ih =>
    cases u with
    | nil => rfl
    | cons d u =>
      rw [List.cons_append, List.cons_append, hasPair, Bool.or_eq_false_iff] at hv
      rw [hasPair, hv.1, ih hv.2]
      rfl

/-- **Ends that show what the grammar sees**, by what stands between the braces: at most one minus
at either end, no plus at the start, and no blanks to cut off but those that the grammar passes
over. -/
structure PlainEnds (inner : List Char) : Prop where
  minusAtStart : ¬ ['-', '-'] <+: inner
  noPlus : ¬ ['+'] <+: inner
  minusAtEnd : ¬ ['-', '-'] <:+ inner
  blanksAtStart : ∀ c ∈ (Text.stripBoth (· = '-') inner).takeWhile Text.isBlank, isInsetBlank c
  blanksAtEnd :
    ∀ c ∈ (Text.stripBoth (· = '-') inner).reverse.takeWhile Text.isBlank, isInsetBlank c

/-- **Whether no brackets of insets are between the braces**, be it in a string or in nested maps.
-/
def IsUnbroken (inner : List Char) : Prop :=
  hasPair '\x7b' '\x7b' inner = false ∧ hasPair '\x7d' '\x7d' inner = false ∧
    hasPair '\x7b' '%' inner = false

/-- A minus sign in front makes no pair. -/
lemma hasPair_minus_append {a b : Char} (ha : a ≠ '-') (cs : List Char) :
    hasPair a b ('-' :: cs) = hasPair a b cs := by
  cases cs with
  | nil => rfl
  | cons c cs => simp [hasPair, ha.symm]

lemma hasPair_append_minus {a b : Char} (hb : b ≠ '-') (cs : List Char) :
    hasPair a b (cs ++ ['-']) = hasPair a b cs := by
  induction cs with
  | nil => rfl
  | cons c cs ih =>
    cases cs with
    | nil => simp [hasPair, hb.symm]
    | cons d cs =>
      rw [List.cons_append, List.cons_append, hasPair, hasPair, ← List.cons_append, ih]

/-- What is dropped of a character that does not come twice. -/
lemma exists_dropWhile {c : Char} {cs : List Char} (h : ¬ [c, c] <+: cs) :
    ∃ before, cs = before ++ cs.dropWhile (· = c) ∧ (before = [] ∨ before = [c]) ∧
      (cs.dropWhile (· = c)).head? ≠ some c := by
  cases cs with
  | nil => exact ⟨[], rfl, .inl rfl, by simp⟩
  | cons d cs =>
    by_cases hd : d = c
    · subst hd
      refine ⟨[d], ?_, .inr rfl, ?_⟩
      all_goals
        cases cs with
        | nil => simp
        | cons e cs =>
          have he : e ≠ d := by
            rintro rfl
            exact h ⟨cs, rfl⟩
          simp [he]
    · exact ⟨[], by simp [hd], .inl rfl, by simp [hd]⟩

/-- What stripping takes off, where there is at most one to take off at either end. -/
lemma exists_strip {inner : List Char} (hstart : ¬ ['-', '-'] <+: inner)
    (hend : ¬ ['-', '-'] <:+ inner) :
    ∃ before behind, inner = before ++ (Text.stripBoth (· = '-') inner ++ behind) ∧
      (before = [] ∨ before = ['-']) ∧ (behind = [] ∨ behind = ['-']) ∧
      (before = [] → inner.head? ≠ some '-') ∧
      (Text.stripBoth (· = '-') inner).getLast? ≠ some '-' := by
  obtain ⟨before, hbefore, hminus, hhead⟩ := exists_dropWhile hstart
  have hend : ¬ ['-', '-'] <+: (inner.dropWhile (· = '-')).reverse := by
    intro h
    have hreverse : ['-', '-'].reverse <+: (inner.dropWhile (· = '-')).reverse := h
    exact hend ((List.reverse_prefix.mp hreverse).trans (List.dropWhile_suffix _))
  obtain ⟨behind, hbehind, hminus', hlast⟩ := exists_dropWhile hend
  have hsplit := congrArg List.reverse hbehind
  rw [List.reverse_reverse, List.reverse_append] at hsplit
  refine ⟨before, behind.reverse, ?_, hminus, ?_, ?_, ?_⟩
  · rw [Text.stripBoth, ← hsplit]
    exact hbefore
  · rcases hminus' with rfl | rfl
    · exact .inl rfl
    · exact .inr rfl
  · rintro rfl
    rw [hbefore]
    exact hhead
  · rw [Text.stripBoth, List.getLast?_reverse]
    exact hlast

/-- What trimming takes off. -/
lemma exists_trim (cs : List Char) :
    ∃ before behind, cs = before ++ (Text.dropEndBlanks (cs.dropWhile Text.isBlank) ++ behind) ∧
      (∀ c ∈ before, c ∈ cs.takeWhile Text.isBlank) ∧
      (∀ c ∈ behind, c ∈ cs.reverse.takeWhile Text.isBlank) := by
  have hsplit : cs.dropWhile Text.isBlank = Text.dropEndBlanks (cs.dropWhile Text.isBlank) ++
      ((cs.dropWhile Text.isBlank).reverse.takeWhile Text.isBlank).reverse := by
    rw [Text.dropEndBlanks, ← List.reverse_append, List.takeWhile_append_dropWhile,
      List.reverse_reverse]
  refine ⟨cs.takeWhile Text.isBlank, ((cs.dropWhile Text.isBlank).reverse.takeWhile
    Text.isBlank).reverse, ?_, fun _ h => h, ?_⟩
  · rw [← hsplit, List.takeWhile_append_dropWhile]
  · intro c hc
    have hprefix : (cs.dropWhile Text.isBlank).reverse <+: cs.reverse :=
      List.reverse_prefix.mpr (List.dropWhile_suffix _)
    obtain ⟨rest, hrest⟩ := hprefix
    rw [List.mem_reverse] at hc
    rw [← hrest, List.takeWhile_append]
    split
    · exact List.mem_append_left _ (List.takeWhile_prefix _ |>.subset hc)
    · exact hc

/-- **The spelling that a source comes down to**, by what stands between its braces. -/
def spelling (inner : List Char) : List Char :=
  Text.dropEndBlanks ((Text.stripBoth (· = '-') inner).dropWhile Text.isBlank)

/-- **A source with plain ends, cut where it is stripped**: a minus, blanks, the spelling, blanks
and a minus, where the first minus is not left out and the last one is none of the spelling. -/
lemma exists_spelling {inner : List Char} (hplain : PlainEnds inner) :
    ∃ minus before behind minus',
      inner = minus ++ (before ++ (spelling inner ++ (behind ++ minus'))) ∧
      (minus = [] ∨ minus = ['-']) ∧ (minus' = [] ∨ minus' = ['-']) ∧
      (∀ c ∈ before, isInsetBlank c) ∧ (∀ c ∈ behind, isInsetBlank c) ∧
      (minus = [] → inner.head? ≠ some '-') ∧
      (behind = [] → (spelling inner).getLast? ≠ some '-') := by
  obtain ⟨minus, minus', hinner, hminus, hminus', hhead, hlast⟩ :=
    exists_strip hplain.minusAtStart hplain.minusAtEnd
  obtain ⟨before, behind, hcore, hbefore, hbehind⟩ :=
    exists_trim (Text.stripBoth (· = '-') inner)
  refine ⟨minus, before, behind, minus', ?_, hminus, hminus', ?_, ?_, hhead, ?_⟩
  · conv_lhs => rw [hinner, hcore]
    simp only [spelling, List.append_assoc]
  · exact fun c hc => hplain.blanksAtStart c (hbefore c hc)
  · exact fun c hc => hplain.blanksAtEnd c (hbehind c hc)
  · rintro rfl hdash
    rw [hcore, List.append_nil, List.getLast?_append] at hlast
    rw [spelling] at hdash
    rw [hdash] at hlast
    exact absurd rfl hlast

/-! ## One output -/

/-- **The grammar reads the whole source as one output.** -/
def SoleOutput (source : String) (e : Expr) : Prop :=
  (betweenBraces? source.toList).isSome ∧ Stmt.read? (Token.ofTemplate source) = .ok [.output e]

lemma betweenBraces?_eq_some {cs inner : List Char} :
    betweenBraces? cs = some inner ↔ cs = '\x7b' :: '\x7b' :: (inner ++ ['\x7d', '\x7d']) := by
  constructor
  · intro h
    unfold betweenBraces? at h
    split at h
    · next rest =>
      split at h
      · next inner' hrest =>
        cases h
        have := congrArg List.reverse hrest
        simp at this
        rw [this]
      · cases h
    · cases h
  · rintro rfl
    simp [betweenBraces?]

/-- A template between braces is the inset that they open. -/
lemma ofTemplate_braces {source : String} {inner : List Char}
    (h : source.toList = '\x7b' :: '\x7b' :: (inner ++ ['\x7d', '\x7d'])) :
    Token.ofTemplate source = .openOutput :: Token.scan (inner.length + 5) (.inset (some .output) 0)
      (Token.openingTrim (inner ++ ['\x7d', '\x7d'])).2 := by
  have hline : Token.dropLineEnd source.toList = source.toList := by
    rw [h]
    unfold Token.dropLineEnd
    split
    · next heq => simp at heq
    · next heq => simp at heq
    · next heq => simp at heq
    · rfl
  have hlength : source.toList.length = inner.length + 4 := by simp [h]
  rw [Token.ofTemplate, hline, hlength, h]
  rcases htrim : Token.openingTrim (inner ++ ['\x7d', '\x7d']) with ⟨trim, rest⟩
  have hfind : Token.findInset ('\x7b' :: '\x7b' :: (inner ++ ['\x7d', '\x7d'])) =
      ([], some (.output, inner ++ ['\x7d', '\x7d'])) := rfl
  rw [Token.scan, if_neg (by decide)]
  simp only [hfind, htrim]
  cases trim <;> rfl

/-- Without a sign in front nothing is trimmed. -/
lemma openingTrim_of_head {cs : List Char} (hminus : cs.head? ≠ some '-')
    (hplus : cs.head? ≠ some '+') : (Token.openingTrim cs).2 = cs := by
  unfold Token.openingTrim
  split
  · exact absurd rfl hminus
  · exact absurd rfl hplus
  · rfl

/-- The opening bracket takes the first minus, and nothing else. -/
lemma openingTrim_plain {minus rest : List Char} (hminus : minus = [] ∨ minus = ['-'])
    (hhead : minus = [] → rest.head? ≠ some '-' ∧ rest.head? ≠ some '+') :
    (Token.openingTrim (minus ++ rest)).2 = rest := by
  rcases hminus with rfl | rfl
  · exact openingTrim_of_head (hhead rfl).1 (hhead rfl).2
  · rfl

/-- **The tokens of a source with plain ends** face those of its spelling. -/
lemma faces_of_plain {source : String} {inner : List Char}
    (h : source.toList = '\x7b' :: '\x7b' :: (inner ++ ['\x7d', '\x7d']))
    (hplain : PlainEnds inner) (hclose : hasPair '\x7d' '\x7d' inner = false) :
    ∃ whole, Token.ofTemplate source = .openOutput :: whole ∧
      Faces 0 (Token.ofExpression (String.ofList (spelling inner))) whole := by
  obtain ⟨minus, before, behind, minus', hinner, hminus, hminus', hbefore, hbehind, hhead, hlast⟩ :=
    exists_spelling hplain
  have hopening : (Token.openingTrim (inner ++ ['\x7d', '\x7d'])).2 =
      before ++ (spelling inner ++ (behind ++ (minus' ++ ['\x7d', '\x7d']))) := by
    have hsplit : inner ++ ['\x7d', '\x7d'] =
        minus ++ (before ++ (spelling inner ++ (behind ++ (minus' ++ ['\x7d', '\x7d'])))) := by
      conv_lhs => rw [hinner]
      simp only [List.append_assoc]
    rw [hsplit]
    refine openingTrim_plain hminus ?_
    rintro rfl
    rw [← List.nil_append (before ++ _), ← hsplit]
    have hdash := hhead rfl
    have hplus := hplain.noPlus
    cases inner with
    | nil => decide
    | cons c inner =>
      refine ⟨by simpa using hdash, ?_⟩
      rintro ⟨⟩
      exact hplus ⟨inner, rfl⟩
  have hending : IsEnding (behind ++ (minus' ++ ['\x7d', '\x7d'])) := by
    rw [IsEnding, List.dropWhile_append_of_pos hbehind]
    rcases hminus' with rfl | rfl
    · exact .inl rfl
    · exact .inr rfl
  refine ⟨_, ofTemplate_braces h, ?_⟩
  rw [hopening, Token.scan_inset_congr (List.dropWhile_append_of_pos hbefore)]
  rw [Token.ofExpression, String.toList_ofList]
  have hlength := congrArg List.length hinner
  refine Token.scan_between hending _ _ 0 (spelling inner) (Nat.lt_succ_self _) ?_ ?_ ?_
  · simp only [List.length_append, List.length_cons, List.length_nil] at hlength ⊢
    omega
  · have hprefix : hasPair '\x7d' '\x7d' (minus ++ before ++ spelling inner) = false := by
      refine hasPair_prefix ⟨behind ++ minus', ?_⟩ hclose
      conv_rhs => rw [hinner]
      simp only [List.append_assoc]
    exact Token.hasPair_suffix ⟨minus ++ before, rfl⟩ hprefix
  · intro hdash
    cases behind with
    | nil => exact absurd hdash (hlast rfl)
    | cons c behind => exact ⟨c, rfl, hbehind c (by simp)⟩

/-- A source with plain ends is one output if its spelling is an expression. -/
lemma sole_iff {source : String} {inner : List Char}
    (h : source.toList = '\x7b' :: '\x7b' :: (inner ++ ['\x7d', '\x7d']))
    (hplain : PlainEnds inner) (hclose : hasPair '\x7d' '\x7d' inner = false) (e : Expr) :
    SoleOutput source e ↔
      Expr.read? (Token.ofExpression (String.ofList (spelling inner))) = .ok e := by
  have hbraces : (betweenBraces? source.toList).isSome := by
    rw [betweenBraces?_eq_some.mpr h]
    rfl
  obtain ⟨whole, hwhole, hfaces⟩ := faces_of_plain h hplain hclose
  rw [SoleOutput, hwhole]
  rcases hfaces with rfl | ⟨hunread, hlast⟩
  · rw [Stmt.read?_between_iff, and_iff_right hbraces]
  · constructor
    · rintro ⟨-, hread⟩
      exact absurd (Stmt.read?_output_getLast? hread) hlast
    · intro hread
      obtain ⟨hinner, hdepth, -⟩ := Expr.read?_balanced hread
      rcases hunread with ⟨t, ht, hnot⟩ | hdeep
      · exact absurd (hinner t ht) hnot
      · exact absurd (by simpa using hdepth) hdeep

lemma hasPair_stripBoth {inner : List Char} (hplain : PlainEnds inner) {a b : Char} (ha : a ≠ '-')
    (hb : b ≠ '-') : hasPair a b (Text.stripBoth (· = '-') inner) = hasPair a b inner := by
  obtain ⟨minus, minus', hinner, hminus, hminus', -⟩ :=
    exists_strip hplain.minusAtStart hplain.minusAtEnd
  conv_rhs => rw [hinner]
  rcases hminus with rfl | rfl <;> rcases hminus' with rfl | rfl <;>
    simp [hasPair_minus_append, hasPair_append_minus, ha, hb]

/-- The expression that a source with plain ends is as a whole. -/
lemma soleExpression?_eq {source : String} {inner : List Char}
    (h : source.toList = '\x7b' :: '\x7b' :: (inner ++ ['\x7d', '\x7d']))
    (hplain : PlainEnds inner) : soleExpression? source =
      if hasPair '\x7b' '\x7b' inner || hasPair '\x7d' '\x7d' inner ||
        hasPair '\x7b' '%' inner then none
      else if (spelling inner).isEmpty then none
      else some (String.ofList (spelling inner)) := by
  unfold soleExpression?
  rw [betweenBraces?_eq_some.mpr h, Option.bind_eq_bind, Option.bind_some]
  simp only [hasPair_stripBoth hplain (a := '\x7b') (b := '\x7b') (by decide) (by decide),
    hasPair_stripBoth hplain (a := '\x7d') (b := '\x7d') (by decide) (by decide),
    hasPair_stripBoth hplain (a := '\x7b') (b := '%') (by decide) (by decide)]
  rfl

/-- What a source renders to if the grammar reads it as the output of `e` and nothing else. -/
def RendersValue (source : String) (e : Expr) : Prop :=
  ∃ t, compile source = .ok t ∧ ∀ context j, t.render context = .ok j ↔
    ∃ v, e.value context = .ok v ∧ v.isUndefined = false ∧ v.toJson? = some j

/-- An expression renders to its value, unless that is undefined or no JSON. -/
lemma render_expression (source spelling : String) (e : Expr) (context : Context) (j : Json) :
    render ⟨source, .expression spelling e⟩ context = .ok j ↔
      ∃ v, e.value context = .ok v ∧ v.isUndefined = false ∧ v.toJson? = some j := by
  simp only [render]
  cases hv : e.value context with
  | error why => simp
  | ok v =>
    cases hu : v.isUndefined with
    | true => simp [hu]
    | false =>
      cases hj : v.toJson? with
      | none => simp [hu, hj]
      | some k => simp [hu, hj]

section

variable {source spelling : String} {e : Expr} {body : List Stmt} {why : Fault}

/-- A sole expression that can be read is compiled as one. -/
lemma compile_sole (hinset : hasInset source) (hsole : soleExpression? source = some spelling)
    (hread : Expr.read? (Token.ofExpression spelling) = .ok e) :
    compile source = .ok ⟨source, .expression spelling e⟩ := by
  rw [compile, if_pos hinset, hsole]
  simp only [hread]

/-- One that cannot be read is a fault of the whole text. -/
lemma compile_sole_fault (hinset : hasInset source)
    (hsole : soleExpression? source = some spelling)
    (hread : Expr.read? (Token.ofExpression spelling) = .error why) :
    compile source = .error (.fault source why) := by
  rw [compile, if_pos hinset, hsole]
  simp only [hread]

/-- Everything else is compiled as a text. -/
lemma compile_text (hinset : hasInset source) (hsole : soleExpression? source = none)
    (hread : Stmt.read? (Token.ofTemplate source) = .ok body) :
    compile source = .ok ⟨source, .text body⟩ := by
  rw [compile, if_pos hinset, hsole]
  simp only [hread]

lemma compile_text_fault (hinset : hasInset source) (hsole : soleExpression? source = none)
    (hread : Stmt.read? (Token.ofTemplate source) = .error why) :
    compile source = .error (.fault source why) := by
  rw [compile, if_pos hinset, hsole]
  simp only [hread]

end

/-- A text renders to a text. -/
lemma render_text {source : String} {body : List Stmt} {context : Context} {j : Json}
    (h : render ⟨source, .text body⟩ context = .ok j) : ∃ s, j = .str s := by
  simp only [render] at h
  split at h
  · cases h
    exact ⟨_, rfl⟩
  · cases h

/-- **A source that the grammar reads as one output keeps the type of its value, and every other
one is text**, where the ends show what the grammar sees. -/
theorem render_plain (source : String)
    (hplain : ∀ inner, betweenBraces? source.toList = some inner → PlainEnds inner) :
    (∀ inner e, betweenBraces? source.toList = some inner → IsUnbroken inner →
      SoleOutput source e → RendersValue source e) ∧
    ((∀ e, ¬ SoleOutput source e) → hasInset source → ∀ t, compile source = .ok t →
      ∀ context j, t.render context = .ok j → ∃ s, j = .str s) := by
  constructor
  · intro inner e hinner hunbroken hsole
    obtain ⟨hopen, hclose, hstatement⟩ := hunbroken
    have hbraces := betweenBraces?_eq_some.mp hinner
    have hread := (sole_iff hbraces (hplain inner hinner) hclose e).mp hsole
    have hspelling := soleExpression?_eq hbraces (hplain inner hinner)
    have hinset : hasInset source := by
      rw [hasInset, hbraces]
      rfl
    have hsome : ¬ (spelling inner).isEmpty := by
      intro hempty
      rw [List.isEmpty_iff.mp hempty] at hread
      exact (Expr.read?_balanced hread).2.2 rfl
    rw [hopen, hclose, hstatement, if_neg (by decide), if_neg hsome] at hspelling
    exact ⟨_, compile_sole hinset hspelling hread,
      render_expression source (String.ofList (spelling inner)) e⟩
  · intro hnone hinset t hcompile context j hrender
    cases hsole : soleExpression? source with
    | none =>
      cases hread : Stmt.read? (Token.ofTemplate source) with
      | ok body =>
        rw [compile_text hinset hsole hread] at hcompile
        cases hcompile
        exact render_text hrender
      | error why =>
        rw [compile_text_fault hinset hsole hread] at hcompile
        cases hcompile
    | some text =>
      -- The grammar would read the expression too.
      obtain ⟨inner, hinner, -⟩ := Option.bind_eq_some_iff.mp hsole
      have hbraces := betweenBraces?_eq_some.mp hinner
      have hspelling := soleExpression?_eq hbraces (hplain inner hinner)
      rw [hsole] at hspelling
      split at hspelling
      · cases hspelling
      · next hunbroken =>
        have hclose : hasPair '\x7d' '\x7d' inner = false := by
          simp only [Bool.or_eq_true, not_or, Bool.not_eq_true] at hunbroken
          exact hunbroken.1.2
        split at hspelling
        · cases hspelling
        · cases hspelling
          cases hread : Expr.read? (Token.ofExpression (String.ofList (spelling inner))) with
          | ok e =>
            exact absurd ((sole_iff hbraces (hplain inner hinner) hclose e).mpr hread) (hnone e)
          | error why =>
            rw [compile_sole_fault hinset hsole hread] at hcompile
            cases hcompile

/-- A sum between two minus signs that control blanks. -/
theorem render_plain_sum :
    (∀ inner, betweenBraces? "\x7b\x7b- n + 1 -\x7d\x7d".toList = some inner → PlainEnds inner) ∧
    RendersValue "\x7b\x7b- n + 1 -\x7d\x7d" (.binary .add (.name "n") (.literal (.int 1))) := by
  have hinner : betweenBraces? "\x7b\x7b- n + 1 -\x7d\x7d".toList = some "- n + 1 -".toList := by
    decide +kernel
  have hplain : ∀ inner, betweenBraces? "\x7b\x7b- n + 1 -\x7d\x7d".toList = some inner →
      PlainEnds inner := by
    intro inner h
    rw [hinner] at h
    cases h
    have hblanks : (Text.stripBoth (· = '-') "- n + 1 -".toList).takeWhile Text.isBlank = [' '] ∧
        (Text.stripBoth (· = '-') "- n + 1 -".toList).reverse.takeWhile Text.isBlank = [' '] := by
      decide
    have hblank : ∀ c ∈ [' '], isInsetBlank c := by
      intro c hc
      rw [List.mem_singleton.mp hc]
      rfl
    exact ⟨by decide, by decide, by decide, by rwa [hblanks.1], by rwa [hblanks.2]⟩
  have htokens : Token.ofTemplate "\x7b\x7b- n + 1 -\x7d\x7d" =
      [.openOutput, .name "n", .sign .plus, .int 1, .closeOutput] := by decide +kernel
  refine ⟨hplain, (render_plain _ hplain).1 _ _ hinner ?_ ⟨by rw [hinner]; rfl, ?_⟩⟩
  · unfold IsUnbroken
    decide
  · rw [htokens]
    rfl

/-- **A second minus is lost**: the grammar takes the first one for the control of blanks and the
second one for the sign of the name, which is printed without it. -/
theorem render_two_minuses : SoleOutput "\x7b\x7b--n\x7d\x7d" (.negative (.name "n")) ∧
    ¬ RendersValue "\x7b\x7b--n\x7d\x7d" (.negative (.name "n")) := by
  have htokens : Token.ofTemplate "\x7b\x7b--n\x7d\x7d" =
      [.openOutput, .sign .minus, .name "n", .closeOutput] := by decide +kernel
  refine ⟨⟨by decide +kernel, by rw [htokens]; rfl⟩, ?_⟩
  rintro ⟨t, hcompile, h⟩
  have hname : compile "\x7b\x7b--n\x7d\x7d" =
      .ok ⟨"\x7b\x7b--n\x7d\x7d", .expression "n" (.name "n")⟩ := rfl
  rw [hname] at hcompile
  cases hcompile
  have hthree : (Rendering.start [] [("n", .ofNat 3)]).lookup "n" = some (.int 3) :=
    Rendering.lookup_start [] [("n", .ofNat 3)] "n"
  have hpositive : (Expr.name "n").value [("n", .ofNat 3)] = .ok (.int 3) := by
    rw [Expr.value, Expr.eval_name, hthree]
    rfl
  have hnegative : (Expr.negative (.name "n")).value [("n", .ofNat 3)] = .ok (.int (-3)) := by
    rw [Expr.value, Expr.eval, StateT.run_bind, Expr.eval_name, hthree]
    rfl
  obtain ⟨v, hv, -, hj⟩ := (h [("n", .ofNat 3)] (.ofNat 3)).mp
    ((render_expression _ _ _ _ _).mpr ⟨.int 3, hpositive, rfl, rfl⟩)
  rw [hnegative] at hv
  cases hv
  cases hj

end Connector.Template
