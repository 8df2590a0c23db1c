import Connector.Proofs.Template.Reading
import Mathlib.Data.List.Basic

/-!
# Tokens at the end of an output

The characters behind an expression in its output, which are blanks, a minus sign and braces, do not
change the token that stands before them.  The only numbers that go on with one of them are those
that break off behind the mark of their exponent, and these are faults with it and without.

* `Decimal.readFloat?_eq_none` — a decimal text that ends in no digit is none.
* `edges`, `Extends` — the characters, and a token read with more of them behind.
* `readToken_append` — reading a token with edges behind.
* `readToken_suffix`, `readToken_inner` — what a token leaves, and what it can be.
-/

namespace Connector

/-! ## Decimal texts that break off -/

namespace Decimal

/-- The digits in front, and what is behind them. -/
lemma leadingDigits_split {value count value' count' : Nat} {cs rest : List Char}
    (h : leadingDigits value count cs = (value', count', rest)) :
    ∃ digits, cs = digits ++ rest ∧ (∀ d ∈ digits, d.isDigit) ∧ count' = count + digits.length := by
  induction cs generalizing value count with
  | nil =>
    cases h
    exact ⟨[], rfl, by simp, rfl⟩
  | cons c cs ih =>
    rw [leadingDigits] at h
    split at h
    · next hc =>
      obtain ⟨digits, rfl, hdigits, hcount⟩ := ih h
      refine ⟨c :: digits, rfl, by simpa [hc] using hdigits, ?_⟩
      simp only [List.length_cons]
      omega
    · cases h
      exact ⟨[], rfl, by simp, rfl⟩

variable {cs : List Char} {z : Char}

/-- Digits are not all there is if the last character is none. -/
lemma leadingDigits_rest {value count value' count' : Nat} {cs rest : List Char}
    (h : leadingDigits value count cs = (value', count', rest)) (hlast : cs.getLast? = some z)
    (hz : z.isDigit = false) : rest.getLast? = some z := by
  obtain ⟨digits, rfl, hdigits, -⟩ := leadingDigits_split h
  cases rest with
  | nil =>
    have := hdigits z (List.mem_of_getLast? (by simpa using hlast))
    simp [hz] at this
  | cons c rest => simpa using hlast

/-- Behind a mark and a sign there are no digits, or something else behind them. -/
lemma leadingDigits_broken {digits : List Char} (hdigits : digits = [] ∨ digits.getLast? = some z)
    (hz : z.isDigit = false) :
    (∃ n rest, leadingDigits 0 0 digits = (n, 0, rest)) ∨
      ∃ n count c rest, leadingDigits 0 0 digits = (n, count + 1, c :: rest) := by
  rcases h : leadingDigits 0 0 digits with ⟨n, count, rest⟩
  cases count with
  | zero => exact .inl ⟨n, rest, rfl⟩
  | succ count =>
    cases rest with
    | cons c rest => exact .inr ⟨n, count, c, rest, rfl⟩
    | nil =>
      rcases hdigits with rfl | hdigits
      · cases h
      · cases leadingDigits_rest h hdigits hz

/-- An exponent ends with a digit. -/
lemma readExponent?_eq_none (hlast : cs.getLast? = some z) (hz : z.isDigit = false) :
    readExponent? cs = none := by
  have htail : ∀ (c : Char) (cs : List Char), (c :: cs).getLast? = some z →
      cs = [] ∨ cs.getLast? = some z := by
    intro c cs hlast
    cases cs with
    | nil => exact .inl rfl
    | cons d ds => exact .inr (by simpa using hlast)
  unfold readExponent?
  split
  · cases hlast
  · next c rest =>
    have hrest := htail c rest hlast
    split
    · split
      next negative digits hsign =>
        have hdigits : digits = [] ∨ digits.getLast? = some z := by
          split at hsign
          · cases hsign
            exact htail '-' _ (hrest.resolve_left (by simp))
          · cases hsign
            exact htail '+' _ (hrest.resolve_left (by simp))
          · cases hsign
            exact hrest
        rcases leadingDigits_broken hdigits hz with ⟨n, rest, h⟩ | ⟨n, count, d, rest, h⟩
        · simp only [h]
        · simp only [h]
    · rfl

/-- A number without a sign ends with a digit or a point. -/
lemma readMagnitude?_eq_none (hlast : cs.getLast? = some z) (hz : z.isDigit = false)
    (hpoint : z ≠ '.') : readMagnitude? cs = none := by
  unfold readMagnitude?
  rcases h : leadingDigits 0 0 cs with ⟨whole, wholeCount, rest⟩
  have hrest := leadingDigits_rest h hlast hz
  simp only
  split
  · next rest' =>
    rcases h' : leadingDigits whole 0 rest' with ⟨value, places, rest⟩
    have hrest : rest.getLast? = some z := by
      refine leadingDigits_rest h' ?_ hz
      cases rest' with
      | nil => simp [hpoint.symm] at hrest
      | cons c rest => simpa using hrest
    simp only [readExponent?_eq_none hrest hz]
    split <;> rfl
  · simp only [readExponent?_eq_none hrest hz]
    split <;> rfl

lemma readFloat?_eq_none {c : Char} {rest : List Char} (hc : c.isDigit)
    (hlast : (c :: rest).getLast? = some z) (hz : z.isDigit = false) (hpoint : z ≠ '.') :
    readFloat? (String.ofList (c :: rest)) = none := by
  have hlower : c.toLower = c := by
    have hc := hc
    simp only [Char.isDigit, Bool.and_eq_true, decide_eq_true_eq] at hc
    unfold Char.toLower
    split
    · next h =>
      have := Nat.le_trans (UInt32.le_iff_toNat_le.mp h.1) (UInt32.le_iff_toNat_le.mp hc.2)
      exact absurd this (by decide)
    · rfl
  have hname : ∀ d ds, d.isDigit = false →
      String.ofList ((c :: rest).map Char.toLower) ≠ String.ofList (d :: ds) := by
    intro d ds hd h
    have hhead := List.cons.inj (String.ofList_injective h)
    rw [← hhead.1, hlower, hc] at hd
    cases hd
  unfold readFloat?
  simp only [String.toList_ofList]
  split
  · next h =>
    cases h
    exact absurd hc (by decide)
  · next h =>
    cases h
    exact absurd hc (by decide)
  · have hinf := hname 'i' ['n', 'f'] rfl
    have hinfinity := hname 'i' ['n', 'f', 'i', 'n', 'i', 't', 'y'] rfl
    have hnan := hname 'n' ['a', 'n'] rfl
    rw [if_neg (not_or.mpr ⟨hinf, hinfinity⟩), if_neg hnan, readMagnitude?_eq_none hlast hz hpoint]
    rfl

end Decimal

namespace Template.Token

/-! ## The edge of an output -/

/-- What can stand between an expression and the end of its output, and in that end. -/
def edges : List Char := [' ', '\t', '\n', '\r', '\x0c', '-', '\x7d']

lemma forall_edges {p : Char → Prop} : (∀ c ∈ edges, p c) ↔
    p ' ' ∧ p '\t' ∧ p '\n' ∧ p '\r' ∧ p '\x0c' ∧ p '-' ∧ p '\x7d' := by
  simp [edges]

/-- Whether a token is a fault. -/
def IsFault (t : Token) : Prop := ∃ why, t = .fault why

/-- **Reading a token again with more behind it**: it is the same and leaves more, or it is a fault
as it was before. -/
def Extends (w : List Char) (p q : Token × List Char) : Prop :=
  q = (p.1, p.2 ++ w) ∨ (p.1.IsFault ∧ q.1.IsFault)

variable {w : List Char}

lemma Extends.same (t : Token) (rest : List Char) : Extends w (t, rest) (t, rest ++ w) := .inl rfl

lemma Extends.faults {t t' : Token} (ht : t.IsFault) (ht' : t'.IsFault) (rest rest' : List Char) :
    Extends w (t, rest) (t', rest') := .inr ⟨ht, ht'⟩

/-- What goes on as long as a test holds ends where edges begin. -/
lemma span_edges {p : Char → Bool} (hp : ∀ c ∈ edges, p c = false) (hw : ∀ c ∈ w, c ∈ edges)
    (x : List Char) : (x ++ w).takeWhile p = x.takeWhile p ∧
      (x ++ w).dropWhile p = x.dropWhile p ++ w := by
  induction x with
  | nil =>
    cases w with
    | nil => simp
    | cons c w => simp [hp c (hw c (by simp))]
  | cons c x ih =>
    by_cases hc : p c
    · simp [hc, ih.1, ih.2]
    · simp [hc]

/-- No text ends among edges, since its delimiter is none. -/
lemma takeString_edges {delimiter : Char} (hd : delimiter ∉ edges) (hw : ∀ c ∈ w, c ∈ edges) :
    takeString delimiter w = none := by
  fun_induction takeString delimiter w with
  | case1 => rfl
  | case2 c rest ih =>
    exact absurd (hw '\\' (by simp)) (by decide)
  | case3 rest h =>
    exact absurd (hw delimiter (by simp)) hd
  | case4 c rest h hc ih =>
    rw [ih fun c h => hw c (by simp [h])]
    rfl

/-- A text is taken with edges behind it as it is without them. -/
lemma takeString_append {delimiter : Char} (hd : delimiter ∉ edges) (hescape : delimiter ≠ '\\')
    (hw : ∀ c ∈ w, c ∈ edges) (x : List Char) : takeString delimiter (x ++ w) =
      (takeString delimiter x).map fun (s, rest) => (s, rest ++ w) := by
  fun_induction takeString delimiter x with
  | case1 =>
    rw [List.nil_append, takeString_edges hd hw]
    rfl
  | case2 c rest ih =>
    simp only [List.cons_append, takeString, ih]
    cases takeString delimiter rest <;> rfl
  | case3 rest h =>
    rw [List.cons_append, takeString]
    · simp
    · rintro c rest rfl
      exact absurd rfl hescape
  | case4 c rest h hc ih =>
    by_cases hbackslash : c = '\\'
    · -- An escape that the text breaks off in does not end it.
      subst hbackslash
      cases rest with
      | cons d rest => exact absurd rfl (h d rest rfl)
      | nil =>
        cases w with
        | nil => simp [takeString, hc]
        | cons d w =>
          have hnone := takeString_edges hd fun c h => hw c (List.mem_cons_of_mem d h)
          simp [takeString, hnone]
    · rw [List.cons_append, takeString, if_neg hc, ih]
      · cases takeString delimiter rest <;> rfl
      · rintro d rest rfl
        exact absurd rfl hbackslash

/-- So is the token of a text; one that is not closed is a fault either way. -/
lemma readStringToken_append {delimiter : Char} (hd : delimiter ∉ edges)
    (hescape : delimiter ≠ '\\') (hw : ∀ c ∈ w, c ∈ edges) (x : List Char) :
    Extends w (readStringToken delimiter x) (readStringToken delimiter (x ++ w)) := by
  unfold readStringToken
  rw [takeString_append hd hescape hw]
  cases takeString delimiter x with
  | none => exact .faults ⟨_, rfl⟩ ⟨_, rfl⟩ _ _
  | some p =>
    simp only [Option.map_some]
    cases unescape? none p.1 with
    | none => exact .faults ⟨_, rfl⟩ ⟨_, rfl⟩ _ _
    | some s => exact .same _ _

/-! ## Numbers with edges behind -/

/-- The minus sign of an exponent is the only edge that a number goes on with. -/
lemma next?_edge (part : NumberPart) {c : Char} (hc : c ∈ edges) :
    part.next? c = if part = .mark ∧ c = '-' then some .exponent else none := by
  have h : ∀ part : NumberPart, ∀ c ∈ edges,
      part.next? c = if part = .mark ∧ c = '-' then some .exponent else none := by
    intro part
    rw [forall_edges]
    cases part <;> decide
  exact h part c hc

/-- Edges do not begin a number, unless an exponent is open. -/
lemma takeDecimal_edges (part : NumberPart) (hpart : part ≠ .mark) (hw : ∀ c ∈ w, c ∈ edges) :
    takeDecimal part w = ([], part, w) := by
  cases w with
  | nil => rfl
  | cons c w => rw [takeDecimal, next?_edge part (hw c (by simp)), if_neg (by simp [hpart])]

/-- Behind the mark of an exponent, edges give no more than a sign. -/
lemma takeDecimal_mark_edges (hw : ∀ c ∈ w, c ∈ edges) :
    takeDecimal .mark w = ([], .mark, w) ∨
      ∃ rest, takeDecimal .mark w = (['-'], .exponent, rest) := by
  cases w with
  | nil => exact .inl rfl
  | cons c w =>
    rw [takeDecimal, next?_edge _ (hw c (by simp))]
    by_cases hc : c = '-'
    · subst hc
      rw [if_pos ⟨rfl, rfl⟩]
      simp only
      rw [takeDecimal_edges .exponent (by decide) fun c h => hw c (List.mem_cons_of_mem _ h)]
      exact .inr ⟨w, rfl⟩
    · rw [if_neg (by simp [hc])]
      exact .inl rfl

lemma takeDecimal_digit {c : Char} (hc : c.isDigit) {part last : NumberPart}
    {x spelling rest : List Char} (h : takeDecimal part (c :: x) = (spelling, last, rest)) :
    ∃ taken, spelling = c :: taken := by
  rw [takeDecimal] at h
  cases hnext : part.next? c with
  | none =>
    unfold NumberPart.next? at hnext
    split at hnext
    · cases hnext
    · cases hnext
    · cases hnext
    · simp only [hc, if_true] at hnext
      split at hnext <;> cases hnext
  | some next =>
    rw [hnext] at h
    cases h
    exact ⟨_, rfl⟩

/-- A number that took all there is goes on in what comes behind. -/
lemma takeDecimal_append {part last : NumberPart} {x spelling rest : List Char}
    (h : takeDecimal part x = (spelling, last, rest)) (w : List Char) :
    takeDecimal part (x ++ w) =
      if rest = [] then (spelling ++ (takeDecimal last w).1, (takeDecimal last w).2)
      else (spelling, last, rest ++ w) := by
  induction x generalizing part spelling with
  | nil =>
    cases h
    rfl
  | cons c x ih =>
    rw [List.cons_append]
    rw [takeDecimal] at h ⊢
    cases hnext : part.next? c with
    | none =>
      rw [hnext] at h
      cases h
      simp
    | some next =>
      rw [hnext] at h
      rcases hx : takeDecimal next x with ⟨taken, last', rest'⟩
      simp only [hx] at h
      cases h
      simp only [ih hx]
      split <;> rfl

/-- Only the letters of an exponent lead to its mark, and underscores lead on from there. -/
lemma next?_eq_mark {part : NumberPart} {c : Char} (h : part.next? c = some .mark) :
    c = 'e' ∨ c = 'E' ∨ part = .mark ∧ c = '_' := by
  unfold NumberPart.next? at h
  split at h
  · cases h
  · cases h
  · cases h
  · split at h
    · next hc => exact hc.1.elim .inl fun hc => .inr (.inl hc)
    · split at h
      · split at h <;> cases h
        next hpart => exact absurd rfl hpart
      · split at h
        · next hc =>
          cases h
          exact .inr (.inr ⟨rfl, hc⟩)
        · cases h

/-- A number that ends in its mark has nothing but underscores behind it. -/
lemma takeDecimal_mark {part : NumberPart} {x spelling rest : List Char}
    (h : takeDecimal part x = (spelling, .mark, rest)) :
    part = .mark ∧ spelling.filter (· ≠ '_') = [] ∨
      ∃ z, (z = 'e' ∨ z = 'E') ∧ (spelling.filter (· ≠ '_')).getLast? = some z := by
  induction x generalizing part spelling with
  | nil =>
    cases h
    exact .inl ⟨rfl, rfl⟩
  | cons c x ih =>
    rw [takeDecimal] at h
    cases hnext : part.next? c with
    | none =>
      rw [hnext] at h
      cases h
      exact .inl ⟨rfl, rfl⟩
    | some next =>
      rw [hnext] at h
      rcases hx : takeDecimal next x with ⟨taken, last', rest'⟩
      simp only [hx] at h
      cases h
      rcases ih hx with ⟨rfl, htaken⟩ | ⟨z, hz, htaken⟩
      · rcases next?_eq_mark hnext with rfl | rfl | ⟨rfl, rfl⟩
        · exact .inr ⟨'e', .inl rfl, by rw [List.filter_cons_of_pos (by decide), htaken]; rfl⟩
        · exact .inr ⟨'E', .inr rfl, by rw [List.filter_cons_of_pos (by decide), htaken]; rfl⟩
        · exact .inl ⟨rfl, by simpa using htaken⟩
      · refine .inr ⟨z, hz, ?_⟩
        rw [List.filter_cons]
        split
        · rw [List.getLast?_cons, htaken]
          rfl
        · exact htaken

/-- A number that breaks off behind its mark or the sign after it is none. -/
lemma floatToken_isFault {c z : Char} {spelling : List Char} (hc : c.isDigit)
    (hlast : ((c :: spelling).filter (· ≠ '_')).getLast? = some z)
    (hz : z = 'e' ∨ z = 'E' ∨ z = '-') : (floatToken (c :: spelling)).IsFault := by
  unfold floatToken
  split
  · exact ⟨_, rfl⟩
  · have hnone : Decimal.readFloat? (String.ofList ((c :: spelling).filter (· ≠ '_'))) = none := by
      have hunderscore : c ≠ '_' := by
        rintro rfl
        exact absurd hc (by decide)
      rw [List.filter_cons_of_pos (by simpa using hunderscore)] at hlast ⊢
      refine Decimal.readFloat?_eq_none hc hlast ?_ ?_
      · rcases hz with rfl | rfl | rfl <;> rfl
      · rcases hz with rfl | rfl | rfl <;> decide
    rw [hnone]
    exact ⟨_, rfl⟩

/-! ## Tokens with edges behind -/

/-- The base of a number is told by its first two characters. -/
lemma base?_append (hw : ∀ c ∈ w, c ∈ edges) (c : Char) (x : List Char) :
    base? (c :: x ++ w) = base? (c :: x) := by
  by_cases hc : c = '0'
  · subst hc
    cases x with
    | cons d x => rfl
    | nil =>
      cases w with
      | nil => rfl
      | cons d w =>
        have h : ∀ d ∈ edges, d ≠ 'b' ∧ d ≠ 'B' ∧ d ≠ 'o' ∧ d ≠ 'O' ∧ d ≠ 'x' ∧ d ≠ 'X' :=
          forall_edges.mpr (by decide)
        simp [base?, h d (hw d (by simp))]
  · simp [base?, hc]

/-- A number is read with edges behind it as it is without them, or is a fault either way. -/
lemma readNumber_append (hw : ∀ c ∈ w, c ∈ edges) {c : Char} (hc : c.isDigit) (x : List Char) :
    Extends w (readNumber (c :: x)) (readNumber (c :: x ++ w)) := by
  unfold readNumber
  rw [base?_append hw]
  cases hbase : base? (c :: x) with
  | some base =>
    obtain ⟨d, x, rfl⟩ : ∃ d y, x = d :: y := by
      cases x with
      | nil => simp [base?] at hbase
      | cons d y => exact ⟨d, y, rfl⟩
    have hdigits : ∀ c ∈ edges,
        (c.isDigit || c = '_' || (base == 16 && (digitValue? c).isSome)) = false := by
      have h : ∀ c ∈ edges, (c.isDigit || c = '_') = false ∧ (digitValue? c).isSome = false :=
        forall_edges.mpr (by decide)
      intro c hc
      rw [(h c hc).1, (h c hc).2, Bool.and_false]
      rfl
    have hspan := span_edges hdigits hw x
    simp only [List.cons_append, List.drop_succ_cons, List.drop_zero, hspan]
    exact .same _ _
  | none =>
    simp only
    rcases h : takeDecimal .whole (c :: x) with ⟨spelling, last, rest⟩
    rw [takeDecimal_append h]
    by_cases hmark : last = .mark
    · subst hmark
      obtain ⟨spelling, rfl⟩ := takeDecimal_digit hc h
      obtain ⟨z, hz, hlast⟩ := (takeDecimal_mark h).resolve_left (by simp)
      have hleft : (floatToken (c :: spelling)).IsFault :=
        floatToken_isFault hc hlast (hz.imp_right .inl)
      have hminus : ((c :: (spelling ++ ['-'])).filter (· ≠ '_')).getLast? = some '-' := by
        rw [← List.cons_append, List.filter_append]
        simp
      have hright : (floatToken (c :: (spelling ++ ['-']))).IsFault :=
        floatToken_isFault hc hminus (by simp)
      have hwhole : NumberPart.mark ≠ .whole := by decide
      have hwhole' : NumberPart.exponent ≠ .whole := by decide
      by_cases hrest : rest = []
      · rw [if_pos hrest]
        rcases takeDecimal_mark_edges hw with hmark | ⟨rest', hmark⟩
        · rw [hmark, List.append_nil]
          simp only [if_neg hwhole]
          exact .faults hleft hleft _ _
        · rw [hmark]
          simp only [if_neg hwhole, if_neg hwhole']
          exact .faults hleft hright _ _
      · rw [if_neg hrest]
        simp only [if_neg hwhole]
        exact .faults hleft hleft _ _
    · have hrest : (if rest = [] then (spelling ++ (takeDecimal last w).1, (takeDecimal last w).2)
          else (spelling, last, rest ++ w)) = (spelling, last, rest ++ w) := by
        rw [takeDecimal_edges last hmark hw]
        split
        · next h => simp [h]
        · rfl
      rw [hrest]
      exact .same _ _

/-- A sign is read with edges behind it as it is without them. -/
lemma readSign?_append (hw : ∀ c ∈ w, c ∈ edges) (c : Char) (x : List Char) :
    readSign? (c :: x ++ w) = (readSign? (c :: x)).map fun (s, rest) => (s, rest ++ w) := by
  cases x with
  | cons d x =>
    simp only [List.cons_append, readSign?]
    cases wideSign? c d with
    | some s => rfl
    | none => cases narrowSign? c <;> rfl
  | nil =>
    cases w with
    | nil => simp
    | cons d w =>
      have hwide : wideSign? c d = none := by
        have h : ∀ d ∈ edges, d ≠ '/' ∧ d ≠ '*' ∧ d ≠ '=' := forall_edges.mpr (by decide)
        have := h d (hw d (by simp))
        unfold wideSign?
        split <;> simp_all
      simp only [List.cons_append, List.nil_append, readSign?, hwide]
      cases narrowSign? c <;> rfl

/-- **A token with edges behind it is the same**, unless it is a fault in both cases. -/
theorem readToken_append (hw : ∀ c ∈ w, c ∈ edges) (c : Char) (x : List Char) :
    Extends w (readToken (c :: x)) (readToken (c :: x ++ w)) := by
  unfold readToken
  rw [readSign?_append hw]
  cases readSign? (c :: x) with
  | some p => exact .same _ _
  | none =>
    simp only [Option.map_none, List.cons_append]
    split
    · next hquote =>
      rcases hquote with rfl | rfl
      · exact readStringToken_append (by decide) (by decide) hw x
      · exact readStringToken_append (by decide) (by decide) hw x
    · split
      · next hdigit => exact readNumber_append hw hdigit x
      · split
        · have hname : ∀ c ∈ edges, continuesName c = false := forall_edges.mpr (by decide)
          have hspan := span_edges hname hw (c :: x)
          rw [← List.cons_append, hspan.1, hspan.2]
          exact .same _ _
        · exact .faults ⟨_, rfl⟩ ⟨_, rfl⟩ _ _

/-! ## What a token leaves -/

/-- What a text leaves is the end of what there was. -/
lemma takeString_suffix {delimiter : Char} {x s rest : List Char}
    (h : takeString delimiter x = some (s, rest)) : rest <:+ x := by
  fun_induction takeString delimiter x generalizing s with
  | case1 => cases h
  | case2 c x ih =>
    obtain ⟨p, hp, h⟩ := Option.map_eq_some_iff.mp h
    cases h
    exact (ih hp).trans ((List.suffix_cons c x).trans (List.suffix_cons _ _))
  | case3 x _ =>
    cases h
    exact List.suffix_cons _ _
  | case4 c x _ _ ih =>
    obtain ⟨p, hp, h⟩ := Option.map_eq_some_iff.mp h
    cases h
    exact (ih hp).trans (List.suffix_cons c x)

/-- What is taken of a number and what is left make up what there was. -/
lemma takeDecimal_split {part last : NumberPart} {x spelling rest : List Char}
    (h : takeDecimal part x = (spelling, last, rest)) : x = spelling ++ rest := by
  induction x generalizing part spelling with
  | nil =>
    cases h
    rfl
  | cons c x ih =>
    rw [takeDecimal] at h
    cases hnext : part.next? c with
    | none =>
      rw [hnext] at h
      cases h
      rfl
    | some next =>
      rw [hnext] at h
      rcases hx : takeDecimal next x with ⟨taken, last', rest'⟩
      simp only [hx] at h
      cases h
      rw [ih hx, List.cons_append]

/-- What a number leaves is the end of what there was. -/
lemma readNumber_suffix {c : Char} (hc : c.isDigit) (x : List Char) :
    (readNumber (c :: x)).2 <:+ x := by
  unfold readNumber
  split
  · exact (List.dropWhile_suffix _).trans (List.drop_suffix 1 x)
  · rcases h : takeDecimal .whole (c :: x) with ⟨spelling, last, rest⟩
    obtain ⟨taken, rfl⟩ := takeDecimal_digit hc h
    have := takeDecimal_split h
    exact ⟨taken, (List.cons.inj this).2.symm⟩

lemma readSign?_suffix {c : Char} {x rest : List Char} {s : Sign}
    (h : readSign? (c :: x) = some (s, rest)) : rest <:+ x := by
  cases x with
  | nil =>
    obtain ⟨_, -, h⟩ := Option.map_eq_some_iff.mp h
    cases h
    exact List.suffix_refl _
  | cons d x =>
    rw [readSign?] at h
    split at h
    · cases h
      exact List.suffix_cons _ _
    · obtain ⟨_, -, h⟩ := Option.map_eq_some_iff.mp h
      cases h
      exact List.suffix_refl _

lemma continuesName_of_startsName {c : Char} (h : startsName c) : continuesName c := by
  simp only [startsName, continuesName, Bool.or_eq_true] at h ⊢
  exact h.imp_left fun h => Bool.or_eq_true_iff.mpr (.inl h)

/-- A token takes at least its first character. -/
theorem readToken_suffix (c : Char) (x : List Char) : (readToken (c :: x)).2 <:+ x := by
  unfold readToken
  cases h : readSign? (c :: x) with
  | some p => exact readSign?_suffix h
  | none =>
    simp only
    split
    · unfold readStringToken
      split
      · exact List.nil_suffix
      · next s rest hs =>
        split
        · exact takeString_suffix hs
        · exact List.nil_suffix
    · split
      · next hc => exact readNumber_suffix hc x
      · split
        · next hc =>
          rw [List.dropWhile_cons_of_pos (continuesName_of_startsName hc)]
          exact List.dropWhile_suffix _
        · exact List.nil_suffix

/-! ## What a token can be -/

/-- The token of an integer is a fault or belongs to an expression. -/
lemma integerToken_inner (base : Nat) (digits : List Char) :
    (integerToken base digits).IsFault ∨ (integerToken base digits).IsInner := by
  unfold integerToken
  split
  · exact .inl ⟨_, rfl⟩
  · split
    · split
      · exact .inr trivial
      · exact .inl ⟨_, rfl⟩
    · exact .inl ⟨_, rfl⟩

lemma floatToken_inner (spelling : List Char) :
    (floatToken spelling).IsFault ∨ (floatToken spelling).IsInner := by
  unfold floatToken
  split
  · exact .inl ⟨_, rfl⟩
  · split
    · exact .inr trivial
    · exact .inl ⟨_, rfl⟩

lemma readNumber_inner (cs : List Char) :
    (readNumber cs).1.IsFault ∨ (readNumber cs).1.IsInner := by
  unfold readNumber
  split
  · exact integerToken_inner _ _
  · simp only
    split
    · exact integerToken_inner _ _
    · exact floatToken_inner _

/-- A token that is no fault can belong to an expression. -/
theorem readToken_inner (cs : List Char) :
    (readToken cs).1.IsFault ∨ (readToken cs).1.IsInner := by
  unfold readToken
  split
  · exact .inr trivial
  · split
    · exact .inl ⟨_, rfl⟩
    · split
      · unfold readStringToken
        split
        · exact .inl ⟨_, rfl⟩
        · split
          · exact .inr trivial
          · exact .inl ⟨_, rfl⟩
      · split
        · exact readNumber_inner _
        · split
          · exact .inr trivial
          · exact .inl ⟨_, rfl⟩

end Template.Token

end Connector
