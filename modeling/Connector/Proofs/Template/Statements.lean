import Connector.Proofs.Template.Reading
import Mathlib.Data.List.Basic

/-!
# Statements that are one output

The statements of a template are collected one after the other.  A template that begins with an
output is just this output if its expression is followed by the closing bracket and by nothing else;
then the expression is the same as it is by itself.

* `collect` — one step of collecting; `growing_found` — what was collected stays.
* `Expr.read?_ok_iff`, `Stmt.read?_eq` — both readers by the state in which they end.
* `Stmt.read?_output_iff`, `Stmt.read?_between_iff` — templates that are one output.
-/

namespace Connector.Template

namespace Reader

/-! ## Collecting statements -/

/-- **One step of collecting statements**, which ends where there are no tokens or a statement
begins that is among `stops`. -/
def collect (expr : Reader Expr) (stmt : Reader Stmt) (stops : List String) (found : List Stmt) :
    Reader (Option (List Stmt)) := do
  match ← peek with
  | some (.plain s) => do
    advance
    pure (some (.plain s :: found))
  | some .openOutput => do
    advance
    let e ← expr
    expect .closeOutput
    pure (some (.output e :: found))
  | some .openStatement => do
    match (← get).tokens with
    | _ :: .name n :: _ =>
      if stops.contains n then pure none
      else
        advance
        let s ← stmt
        closing
        pure (some (s :: found))
    | _ => do
      advance
      unexpected
  | some _ => unexpected
  | none => pure none

variable {expr : Reader Expr} {stmt : Reader Stmt}

/-- A step that goes on has found a statement. -/
lemma collect_some {stops : List String} {found found' : List Stmt} {r r' : Reading}
    (h : (collect expr stmt stops found).run r = .ok (some found', r')) :
    ∃ s, found' = s :: found := by
  rw [collect, run_peek] at h
  split at h
  · obtain ⟨_, _, -, h⟩ := bind_ok h
    cases h
    exact ⟨_, rfl⟩
  · obtain ⟨_, _, -, h⟩ := bind_ok h
    obtain ⟨_, _, -, h⟩ := bind_ok h
    obtain ⟨_, _, -, h⟩ := bind_ok h
    cases h
    exact ⟨_, rfl⟩
  · obtain ⟨_, _, -, h⟩ := bind_ok h
    split at h
    · split at h
      · cases h
      · obtain ⟨_, _, -, h⟩ := bind_ok h
        obtain ⟨_, _, -, h⟩ := bind_ok h
        obtain ⟨_, _, -, h⟩ := bind_ok h
        cases h
        exact ⟨_, rfl⟩
    · obtain ⟨_, _, -, h⟩ := bind_ok h
      exact absurd h unexpected_not_ok
  · exact absurd h unexpected_not_ok
  · cases h

/-- A step that ends has no tokens ahead. -/
lemma collect_none {found : List Stmt} {r r' : Reading}
    (h : (collect expr stmt [] found).run r = .ok (none, r')) : r.tokens = [] := by
  rw [collect, run_peek] at h
  cases htokens : r.tokens with
  | nil => rfl
  | cons t ts =>
    rw [htokens] at h
    cases t with
    | plain s =>
      obtain ⟨_, _, -, h⟩ := bind_ok h
      cases h
    | openOutput =>
      obtain ⟨_, _, -, h⟩ := bind_ok h
      obtain ⟨_, _, -, h⟩ := bind_ok h
      obtain ⟨_, _, -, h⟩ := bind_ok h
      cases h
    | openStatement =>
      obtain ⟨_, _, -, h⟩ := bind_ok h
      split at h
      · obtain ⟨_, _, -, h⟩ := bind_ok h
        obtain ⟨_, _, -, h⟩ := bind_ok h
        obtain ⟨_, _, -, h⟩ := bind_ok h
        cases h
      · obtain ⟨_, _, -, h⟩ := bind_ok h
        exact absurd h unexpected_not_ok
    | _ => exact absurd h unexpected_not_ok

lemma collect_plain {stops : List String} {found : List Stmt} {r : Reading} {s : String}
    {ts : List Token} (h : r.tokens = .plain s :: ts) :
    (collect expr stmt stops found).run r =
      .ok (some (.plain s :: found), { r with tokens := ts }) := by
  rw [collect, run_peek, h]
  exact run_bind_ok (run_advance h)

lemma collect_output {stops : List String} {found : List Stmt} {r r' : Reading} {e : Expr}
    {ts us : List Token} (h : r.tokens = .openOutput :: ts)
    (he : expr.run { r with tokens := ts } = .ok (e, r')) (hr' : r'.tokens = .closeOutput :: us) :
    (collect expr stmt stops found).run r =
      .ok (some (.output e :: found), { r' with tokens := us }) := by
  rw [collect, run_peek, h]
  refine (run_bind_ok (run_advance h)).trans ?_
  refine (run_bind_ok he).trans ?_
  exact run_bind_ok (run_expect hr')

/-- A step at an output has read its expression and its closing bracket. -/
lemma collect_output_ok {stops : List String} {found : List Stmt} {found'? : Option (List Stmt)}
    {r r' : Reading} {ts : List Token} (h : r.tokens = .openOutput :: ts)
    (hcollect : (collect expr stmt stops found).run r = .ok (found'?, r')) :
    ∃ e r₁, expr.run { r with tokens := ts } = .ok (e, r₁) ∧
      r₁.tokens = .closeOutput :: r'.tokens ∧ found'? = some (.output e :: found) := by
  rw [collect, run_peek, h] at hcollect
  obtain ⟨_, _, hadvance, hcollect⟩ := bind_ok hcollect
  rw [run_advance h] at hadvance
  cases hadvance
  obtain ⟨e, r₁, he, hcollect⟩ := bind_ok hcollect
  obtain ⟨_, r₂, hclose, hcollect⟩ := bind_ok hcollect
  cases hcollect
  exact ⟨e, r₁, he, expect_ok hclose, rfl⟩

lemma growing_end {stops : List String} {found : List Stmt} {r : Reading} (fuel : Nat)
    (h : r.tokens = []) :
    (growing (collect expr stmt stops) fuel found).run r = .ok (found, r) := by
  cases fuel with
  | zero => rfl
  | succ fuel =>
    have hnone : (collect expr stmt stops found).run r = .ok (none, r) := by
      rw [collect, run_peek, h]
      rfl
    rw [Reader.growing, run_bind_ok hnone]
    rfl

/-- What was collected stays, with more in front. -/
lemma growing_found {stops : List String} {fuel : Nat} {found result : List Stmt} {r r' : Reading}
    (h : (growing (collect expr stmt stops) fuel found).run r = .ok (result, r')) :
    ∃ more, result = more ++ found := by
  induction fuel generalizing found r with
  | zero =>
    cases h
    exact ⟨[], rfl⟩
  | succ fuel ih =>
    obtain ⟨found'?, r₁, hfound, h⟩ := bind_ok h
    cases found'? with
    | none =>
      cases h
      exact ⟨[], rfl⟩
    | some found' =>
      obtain ⟨s, rfl⟩ := collect_some hfound
      obtain ⟨more, rfl⟩ := ih h
      exact ⟨more ++ [s], by simp⟩

/-- Nothing more is collected only where there are no tokens. -/
lemma growing_same {fuel : Nat} {found : List Stmt} {r r' : Reading}
    (h : (growing (collect expr stmt []) (fuel + 1) found).run r = .ok (found, r')) :
    r.tokens = [] := by
  obtain ⟨found'?, r₁, hfound, h⟩ := bind_ok h
  cases found'? with
  | none => exact collect_none hfound
  | some found' =>
    obtain ⟨s, rfl⟩ := collect_some hfound
    obtain ⟨more, hmore⟩ := growing_found h
    have := congrArg List.length hmore
    simp only [List.length_append, List.length_cons] at this
    omega

end Reader

open Reader

/-! ## Templates of one output -/

/-- An expression is read as a whole if no token is left. -/
lemma Expr.read?_ok_iff {tokens : List Token} {e : Expr} :
    Expr.read? tokens = .ok e ↔
      ∃ r, (exprAt maxDepth).run (.of tokens) = .ok (e, r) ∧ r.tokens = [] := by
  unfold Expr.read? Reading.of
  cases (exprAt maxDepth).run ⟨tokens, [], false, false⟩ with
  | error why =>
    constructor
    · intro h
      cases h
    · rintro ⟨_, h, _⟩
      cases h
  | ok x =>
    obtain ⟨a, tokens', blocks, inMacro, usesCaller⟩ := x
    cases tokens' with
    | nil =>
      constructor
      · intro h
        cases h
        exact ⟨_, rfl, rfl⟩
      · rintro ⟨r, h, -⟩
        cases h
        rfl
    | cons t ts =>
      refine ⟨fun h => ?_, fun ⟨r, h, hr⟩ => ?_⟩
      · cases t <;> cases h
      · cases h
        cases hr

/-- Nothing stops the statements of a template but the end of its tokens. -/
lemma Stmt.read?_eq (tokens : List Token) :
    Stmt.read? tokens =
      ((growing (collect (exprAt maxDepth) (stmtAt maxDepth) []) tokens.length []).run
        (.of tokens)).map fun x => x.1.reverse := by
  have h : (statements (exprAt maxDepth) (stmtAt maxDepth) []).run (.of tokens) =
      (growing (collect (exprAt maxDepth) (stmtAt maxDepth) []) tokens.length [] >>= fun found =>
        pure found.reverse).run (.of tokens) := rfl
  unfold Stmt.read?
  simp only [Reading.of] at h ⊢
  rw [h, StateT.run_bind]
  cases (growing (collect (exprAt maxDepth) (stmtAt maxDepth) []) tokens.length []).run _ <;> rfl

/-- **A template is one output** if its expression ends at the last token. -/
theorem Stmt.read?_output_iff {tokens : List Token} {e : Expr} :
    Stmt.read? (.openOutput :: tokens) = .ok [.output e] ↔
      ∃ r, (exprAt maxDepth).run (.of tokens) = .ok (e, r) ∧ r.tokens = [.closeOutput] := by
  rw [Stmt.read?_eq, List.length_cons]
  constructor
  · intro h
    cases heq : (growing (collect (exprAt maxDepth) (stmtAt maxDepth) []) (tokens.length + 1)
      []).run (.of (.openOutput :: tokens)) with
    | error why =>
      rw [heq] at h
      cases h
    | ok x =>
      rw [heq] at h
      obtain ⟨result, r⟩ := x
      have hresult : result = [.output e] := by
        have : result.reverse = [Stmt.output e] := Except.ok.inj h
        simpa using congrArg List.reverse this
      subst hresult
      obtain ⟨found?, r₁, hfound, hmore⟩ := bind_ok heq
      obtain ⟨e', r₂, he, hclose, rfl⟩ := collect_output_ok rfl hfound
      obtain ⟨more, hlast⟩ := growing_found hmore
      obtain ⟨rfl, hsame⟩ : more = [] ∧ e = e' := by
        cases more with
        | nil => exact ⟨rfl, Stmt.output.inj (List.cons.inj hlast).1⟩
        | cons s more => simp at hlast
      subst hsame
      -- The expression has taken a token, so that there was one more step.
      obtain ⟨ts, htokens, -, -, hpos⟩ := exprAt_used he
      have htokens : tokens = ts ++ r₂.tokens := htokens
      have hlength : tokens.length = ts.length + r₂.tokens.length := by
        rw [htokens, List.length_append]
      obtain ⟨n, hn⟩ : ∃ n, tokens.length = n + 1 := ⟨tokens.length - 1, by omega⟩
      rw [hn] at hmore
      exact ⟨r₂, he, by rw [hclose, growing_same hmore]⟩
  · rintro ⟨r, he, hr⟩
    have hcollect : (collect (exprAt maxDepth) (stmtAt maxDepth) [] []).run
        (.of (.openOutput :: tokens)) = .ok (some [.output e], { r with tokens := [] }) :=
      collect_output rfl he hr
    rw [growing, run_bind_ok hcollect, growing_end _ rfl]
    rfl

/-- An expression closes what it opens and is made of nothing but tokens of expressions. -/
theorem Expr.read?_balanced {tokens : List Token} {e : Expr} (h : Expr.read? tokens = .ok e) :
    (∀ t ∈ tokens, t.IsInner) ∧ Token.depth tokens = 0 ∧ tokens ≠ [] := by
  obtain ⟨r, hr, hempty⟩ := Expr.read?_ok_iff.mp h
  obtain ⟨ts, htokens, hinner, hdepth, hlength⟩ := exprAt_used hr
  have : tokens = ts := by
    have : tokens = ts ++ r.tokens := htokens
    rw [this, hempty, List.append_nil]
  subst this
  exact ⟨hinner, hdepth, List.length_pos_iff.mp hlength⟩

/-- **An output holds the expression that stands between its brackets.** -/
theorem Stmt.read?_between_iff {tokens : List Token} {e : Expr} :
    Stmt.read? (.openOutput :: (tokens ++ [.closeOutput])) = .ok [.output e] ↔
      Expr.read? tokens = .ok e := by
  rw [Stmt.read?_output_iff, Expr.read?_ok_iff]
  have hbeyond : (exprAt maxDepth).run (.of (tokens ++ [.closeOutput])) =
      behind [.closeOutput] ((exprAt maxDepth).run (.of tokens)) :=
    (reads_exprAt maxDepth (.of tokens)).beyond
  rw [hbeyond]
  cases (exprAt maxDepth).run (.of tokens) with
  | error why =>
    constructor
    · rintro ⟨_, h, _⟩
      cases h
    · rintro ⟨_, h, _⟩
      cases h
  | ok x =>
    constructor
    · rintro ⟨r, h, hr⟩
      cases h
      exact ⟨x.2, rfl, by simpa [Reading.before] using hr⟩
    · rintro ⟨r, h, hr⟩
      cases h
      exact ⟨_, rfl, by simp [Reading.before, hr]⟩

/-- A template that is one output ends with its closing bracket. -/
lemma Stmt.read?_output_getLast? {tokens : List Token} {e : Expr}
    (h : Stmt.read? (.openOutput :: tokens) = .ok [.output e]) :
    tokens.getLast? = some .closeOutput := by
  obtain ⟨r, he, hr⟩ := Stmt.read?_output_iff.mp h
  obtain ⟨ts, htokens, -⟩ := exprAt_used he
  have : tokens = ts ++ r.tokens := htokens
  simp [this, hr]

end Connector.Template
