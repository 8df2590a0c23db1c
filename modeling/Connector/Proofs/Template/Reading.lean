import Connector.Template.Parser
import Mathlib.Data.List.Basic

/-!
# What readers of expressions do with their tokens

An expression is read by itself, or inside an output with more tokens behind it.  Both come to the
same: a reader never looks beyond the closing bracket of the output.  It also takes nothing but
tokens of expressions, and it closes what it opens.

* `ReadsAt`, `Reads` — both facts about a reader, at one state and at every one.  There is one lemma
  for each way of building readers, `ReadsAt.bind` first among them.
* `Steps`, `ReadsAt.grow` — repetitions, by what one step of them reads.
* `reads_primary`, …, `reads_unconditional` — one lemma for each layer of the grammar.
* `reads_exprAt` — the circle of the layers, by induction on the depth that is allowed.
-/

namespace Connector.Template

open Token (depthChange)

/-! ## Tokens of expressions -/

/-- The brackets that tokens leave open. -/
def Token.depth : List Token → Int
  | [] => 0
  | t :: ts => t.depthChange + depth ts

@[simp] lemma Token.depth_nil : depth [] = 0 := rfl

@[simp] lemma Token.depth_cons (t : Token) (ts : List Token) :
    depth (t :: ts) = t.depthChange + depth ts := rfl

/-- The depth of tokens is that of their two parts together. -/
@[simp] lemma Token.depth_append (ts us : List Token) :
    depth (ts ++ us) = depth ts + depth us := by
  induction ts with
  | nil => simp
  | cons t ts ih => rw [List.cons_append, depth_cons, ih, depth_cons, Int.add_assoc]

/-- Whether a token can belong to an expression. -/
def Token.IsInner : Token → Prop
  | .name _ | .str _ | .int _ | .float _ | .sign _ => True
  | _ => False

/-! ## Reading the same with more behind -/

/-- The state in which the reading of tokens begins. -/
def Reading.of (tokens : List Token) : Reading := ⟨tokens, [], false, false⟩

/-- The same state with more tokens behind. -/
def Reading.before (r : Reading) (behind : List Token) : Reading :=
  { r with tokens := r.tokens ++ behind }

namespace Reader

variable {α β γ : Type} {rest : List Token}

/-- What a reading comes to when more tokens stand behind. -/
def behind (rest : List Token) (x : Except Fault (α × Reading)) : Except Fault (α × Reading) :=
  x.map fun (a, r) => (a, r.before rest)

/-- **What a reader does from a state on.**  The second reader is the same one as it runs with a
closing bracket and `rest` behind; the two differ only in the number of tokens that bounds their
repetitions. `P` is about what was read, the brackets left open by its tokens, and how many these
are. -/
structure ReadsAt (rest : List Token) (P : α → Int → Nat → Prop) (m m' : Reader α)
    (r : Reading) : Prop where
  beyond : m'.run (r.before (.closeOutput :: rest)) = behind (.closeOutput :: rest) (m.run r)
  used : ∀ a r', m.run r = .ok (a, r') → ∃ ts : List Token, r.tokens = ts ++ r'.tokens ∧
    (∀ t ∈ ts, t.IsInner) ∧ P a (Token.depth ts) ts.length

/-- What a reader does from every state on. -/
def Reads (rest : List Token) (P : α → Int → Nat → Prop) (m : Reader α) : Prop :=
  ∀ r, ReadsAt rest P m m r

/-- All brackets are closed, and there is something. -/
def Whole (_ : α) (d : Int) (n : Nat) : Prop := d = 0 ∧ 0 < n

/-- What a reader comes to may be said with a weaker condition. -/
lemma ReadsAt.mono {P Q : α → Int → Nat → Prop} {m m' : Reader α} {r : Reading}
    (h : ReadsAt rest P m m' r) (hPQ : ∀ a d n, P a d n → Q a d n) : ReadsAt rest Q m m' r := by
  refine ⟨h.beyond, fun a r' heq => ?_⟩
  obtain ⟨ts, htokens, hclean, hP⟩ := h.used a r' heq
  exact ⟨ts, htokens, hclean, hPQ _ _ _ hP⟩

lemma ReadsAt.pure {P : α → Int → Nat → Prop} {a : α} (h : P a 0 0) (r : Reading) :
    ReadsAt rest P (pure a) (pure a) r := by
  refine ⟨rfl, fun b r' heq => ?_⟩
  cases heq
  exact ⟨[], rfl, by simp, h⟩

/-- To note the use of the caller takes no token. -/
lemma reads_mark : Reads rest (fun _ d n => d = 0 ∧ n = 0)
    (modify fun r => { r with usesCaller := true }) := by
  intro r
  refine ⟨rfl, fun b r' heq => ?_⟩
  cases heq
  exact ⟨[], rfl, by simp, by simp⟩

/-- A reader that gives up does so with more tokens behind as well. -/
lemma ReadsAt.throw {P : α → Int → Nat → Prop} (why : Fault) (r : Reading) :
    ReadsAt rest P (throw why) (throw why) r :=
  ⟨rfl, fun _ _ heq => by cases heq⟩

/-- After a reader that comes to a value, the next one goes on with the tokens that are left. -/
lemma run_bind_ok {m : Reader α} {f : α → Reader β} {r r' : Reading} {a : α}
    (h : m.run r = .ok (a, r')) : (m >>= f).run r = (f a).run r' := by
  rw [StateT.run_bind, h]
  rfl

/-- After a reader that gives up, nothing more is read. -/
lemma run_bind_error {m : Reader α} {f : α → Reader β} {r : Reading} {why : Fault}
    (h : m.run r = .error why) : (m >>= f).run r = .error why := by
  rw [StateT.run_bind, h]
  rfl

/-- Both steps of a reading have come to something. -/
lemma bind_ok {m : Reader α} {f : α → Reader β} {r r'' : Reading} {b : β}
    (h : (m >>= f).run r = .ok (b, r'')) :
    ∃ a r', m.run r = .ok (a, r') ∧ (f a).run r' = .ok (b, r'') := by
  cases heq : m.run r with
  | error why =>
    rw [run_bind_error heq] at h
    cases h
  | ok x => exact ⟨x.1, x.2, rfl, by rwa [run_bind_ok heq] at h⟩

/-- **One reader after the other.**  The second one may depend on what the first one has read and on
how many tokens it took. -/
lemma ReadsAt.bind {P : α → Int → Nat → Prop} {Q : β → Int → Nat → Prop} {m m' : Reader α}
    {f f' : α → Reader β} {r : Reading} (hm : ReadsAt rest P m m' r)
    (hf : ∀ a r' d n, r.tokens.length = n + r'.tokens.length → P a d n →
      ReadsAt rest (fun b d' n' => Q b (d + d') (n + n')) (f a) (f' a) r') :
    ReadsAt rest Q (m >>= f) (m' >>= f') r := by
  have hbeyond := hm.beyond
  cases heq : m.run r with
  | error why =>
    rw [heq] at hbeyond
    refine ⟨by rw [run_bind_error hbeyond, run_bind_error heq]; rfl, fun b r'' hb => ?_⟩
    rw [run_bind_error heq] at hb
    cases hb
  | ok x =>
    obtain ⟨a, r'⟩ := x
    rw [heq] at hbeyond
    obtain ⟨ts, htokens, hclean, hP⟩ := hm.used a r' heq
    have hnext := hf a r' _ _ (by simp [htokens]) hP
    refine ⟨by rw [run_bind_ok hbeyond, run_bind_ok heq]; exact hnext.beyond, fun b r'' hb => ?_⟩
    rw [run_bind_ok heq] at hb
    obtain ⟨us, husTokens, husClean, hQ⟩ := hnext.used b r'' hb
    refine ⟨ts ++ us, by simp [htokens, husTokens], ?_, by simpa using hQ⟩
    intro t hmem
    rcases List.mem_append.mp hmem with hmem | hmem
    · exact hclean t hmem
    · exact husClean t hmem

/-- A reader of something whole leaves the brackets to what comes behind it. -/
lemma ReadsAt.then {m : Reader α} {f : α → Reader β} {r : Reading} {k : Int}
    (hm : ReadsAt rest Whole m m r) (hf : ∀ a, Reads rest (fun _ d _ => d = k) (f a)) :
    ReadsAt rest (fun _ d _ => d = k) (m >>= f) (m >>= f) r :=
  hm.bind fun a r' _ _ _ ⟨hd, _⟩ => (hf a r').mono fun _ d n h => by simp [hd, h]

/-- A function on what is read takes no token. -/
lemma ReadsAt.map {Q : β → Int → Nat → Prop} {m m' : Reader α} {r : Reading} (f : α → β)
    (h : ReadsAt rest (fun a => Q (f a)) m m' r) : ReadsAt rest Q (f <$> m) (f <$> m') r := by
  rw [map_eq_pure_bind, map_eq_pure_bind]
  exact h.bind fun a r' d n _ hQ => .pure (by simpa using hQ) r'

/-! ## Single tokens -/

lemma run_peek {f : Option Token → Reader α} {r : Reading} :
    (peek >>= f).run r = (f r.tokens.head?).run r := rfl

lemma run_advance {t : Token} {r : Reading} {ts : List Token} (h : r.tokens = t :: ts) :
    advance.run r = .ok ((), { r with tokens := ts }) := by
  obtain ⟨tokens, blocks, inMacro, usesCaller⟩ := r
  cases h
  rfl

/-- A token that is not there is not skipped. -/
lemma run_skip {f : Bool → Reader α} {t : Token} {r : Reading} (h : r.tokens.head? ≠ some t) :
    (skip t >>= f).run r = (f false).run r := by
  have hskip : (Reader.skip t).run r = .ok (false, r) := by
    have : (Reader.skip t).run r =
        (if r.tokens.head? = some t then Reader.advance >>= fun _ => pure true
          else pure false : Reader Bool).run r := rfl
    rw [this, if_neg h]
    rfl
  exact run_bind_ok hskip

/-- A token that nobody expected is an error of syntax, unless it holds an error of its own. -/
lemma run_unexpected {r : Reading} (h : ∀ why, r.tokens.head? ≠ some (.fault why)) :
    (Reader.unexpected : Reader α).run r = .error .syntaxError := by
  obtain ⟨tokens, blocks, inMacro, usesCaller⟩ := r
  cases tokens with
  | nil => rfl
  | cons t ts =>
    cases t with
    | fault why => exact absurd rfl (h why)
    | _ => rfl

/-- Nothing is read where a token was not expected. -/
lemma unexpected_not_ok {r r' : Reading} {a : α} :
    (unexpected : Reader α).run r ≠ .ok (a, r') := by
  intro h
  rw [Reader.unexpected, run_peek] at h
  split at h <;> cases h

lemma run_expect {t : Token} {r : Reading} {ts : List Token} (h : r.tokens = t :: ts) :
    (expect t).run r = .ok ((), { r with tokens := ts }) := by
  have hskip : (Reader.skip t).run r = .ok (true, { r with tokens := ts }) := by
    rw [Reader.skip, run_peek, h]
    simp only [List.head?_cons, if_true]
    exact run_bind_ok (run_advance h)
  exact run_bind_ok hskip

/-- Where an expected token was read, it was the next one. -/
lemma expect_ok {t : Token} {r r' : Reading} (h : (expect t).run r = .ok ((), r')) :
    r.tokens = t :: r'.tokens := by
  by_cases hhead : r.tokens.head? = some t
  · obtain ⟨ts, htokens⟩ := List.head?_eq_some_iff.mp hhead
    rw [run_expect htokens] at h
    cases h
    exact htokens
  · rw [expect, run_skip hhead] at h
    exact absurd h unexpected_not_ok

/-- At the end of its tokens a reader sees the closing bracket instead of nothing. -/
lemma ReadsAt.peek {P : α → Int → Nat → Prop} {f f' : Option Token → Reader α} {r : Reading}
    (hnone : r.tokens = [] → ReadsAt rest P (f none) (f' (some .closeOutput)) r)
    (hsome : ∀ t ts, r.tokens = t :: ts → ReadsAt rest P (f (some t)) (f' (some t)) r) :
    ReadsAt rest P (peek >>= f) (peek >>= f') r := by
  have hleft : (Reader.peek >>= f).run r = (f r.tokens.head?).run r := rfl
  have hright : (Reader.peek >>= f').run (r.before (.closeOutput :: rest)) =
      (f' (r.tokens ++ .closeOutput :: rest).head?).run (r.before (.closeOutput :: rest)) := rfl
  cases htokens : r.tokens with
  | nil =>
    have h := hnone htokens
    exact ⟨by rw [hright, hleft, htokens]; exact h.beyond,
      fun a r' heq => h.used a r' (by rw [hleft, htokens] at heq; exact heq)⟩
  | cons t ts =>
    have h := hsome t ts htokens
    exact ⟨by rw [hright, hleft, htokens]; exact h.beyond,
      fun a r' heq => h.used a r' (by rw [hleft, htokens] at heq; exact heq)⟩

/-- To go on takes the next token, with its change of depth. -/
lemma ReadsAt.advance {t : Token} {ts : List Token} {r : Reading} (htokens : r.tokens = t :: ts)
    (ht : t.IsInner) :
    ReadsAt rest (fun _ d n => d = t.depthChange ∧ n = 1) advance advance r := by
  refine ⟨?_, fun a r' heq => ?_⟩
  · have hmore : (r.before (.closeOutput :: rest)).tokens = t :: (ts ++ .closeOutput :: rest) := by
      rw [Reading.before, htokens]
      rfl
    rw [run_advance hmore, run_advance htokens]
    rfl
  · rw [run_advance htokens] at heq
    cases heq
    exact ⟨[t], htokens, by simpa using ht, by simp⟩

/-- A token that nobody expected stays unexpected, however many follow. -/
lemma ReadsAt.unexpected {P : α → Int → Nat → Prop} (r : Reading) :
    ReadsAt rest P unexpected unexpected r := by
  refine .peek (fun _ => .throw _ _) fun t ts _ => ?_
  cases t <;> exact .throw _ _

/-- A step over a token, if it is there, and what comes behind it in both cases. -/
lemma ReadsAt.skip {P : α → Int → Nat → Prop} {f f' : Bool → Reader α} {t : Token} {r : Reading}
    (ht : t.IsInner)
    (htrue : ∀ r', r.tokens.length = r'.tokens.length + 1 →
      ReadsAt rest (fun a d n => P a (t.depthChange + d) (n + 1)) (f true) (f' true) r')
    (hfalse : ReadsAt rest P (f false) (f' false) r) :
    ReadsAt rest P (skip t >>= f) (skip t >>= f') r := by
  have hskip : ∀ g : Bool → Reader α, (Reader.skip t >>= g) =
      (Reader.peek >>= fun u =>
        if u = some t then Reader.advance >>= fun _ => g true else g false) := by
    intro g
    simp only [Reader.skip, bind_assoc]
    congr
    funext u
    split <;> simp
  rw [hskip, hskip]
  refine .peek (fun _ => ?_) fun u us htokens => ?_
  · have : Token.closeOutput ≠ t := by
      rintro rfl
      exact ht
    simpa [this] using hfalse
  · by_cases hu : u = t
    · subst hu
      simp only [if_pos]
      refine (ReadsAt.advance htokens ht).bind fun _ r' d n hlength ⟨hd, hn⟩ => ?_
      subst hd hn
      exact (htrue r' (by omega)).mono fun a d n h => by rwa [Nat.add_comm 1 n]
    · simpa [hu] using hfalse

/-- To skip a token that opens and closes nothing leaves the depth as it is. -/
lemma reads_skip {t : Token} (ht : t.IsInner) (hflat : t.depthChange = 0) :
    Reads rest (fun _ d _ => d = 0) (skip t) := by
  intro r
  rw [← bind_pure (Reader.skip t)]
  exact .skip ht (fun r' _ => .pure (by simp [hflat]) r') (.pure rfl r)

/-- What follows a token that may be skipped is read at the same depth, be it there or not. -/
lemma ReadsAt.skip_flat {f f' : Bool → Reader α} {t : Token} {r : Reading} {k : Int}
    (ht : t.IsInner) (hflat : t.depthChange = 0)
    (htrue : ∀ r', ReadsAt rest (fun _ d _ => d = k) (f true) (f' true) r')
    (hfalse : ReadsAt rest (fun _ d _ => d = k) (f false) (f' false) r) :
    ReadsAt rest (fun _ d _ => d = k) (Reader.skip t >>= f) (Reader.skip t >>= f') r :=
  .skip ht (fun r' _ => (htrue r').mono fun _ d _ hd => by simp [hflat, hd]) hfalse

/-- A reader that takes the number of tokens for its fuel has enough of it with more tokens, too. -/
lemma ReadsAt.tokensAhead {P : α → Int → Nat → Prop} {f f' : Nat → Reader α} {r : Reading}
    (h : ∀ n, r.tokens.length < n → ReadsAt rest P (f r.tokens.length) (f' n) r) :
    ReadsAt rest P (tokensAhead >>= f) (tokensAhead >>= f') r := by
  have h := h (r.before (.closeOutput :: rest)).tokens.length (by simp [Reading.before])
  exact ⟨h.beyond, h.used⟩

/-- An expected token is one token with its change of depth. -/
lemma reads_expect {t : Token} (ht : t.IsInner) :
    Reads rest (fun _ d n => d = t.depthChange ∧ n = 1) (expect t) := by
  intro r
  refine .skip ht (fun r' _ => ?_) (.unexpected r)
  exact .pure (by simp) r'

lemma reads_expectSign (s : Sign) :
    Reads rest (fun _ d n => d = (Token.sign s).depthChange ∧ n = 1) (expectSign s) :=
  reads_expect trivial

lemma reads_expectWord (w : String) : Reads rest (fun _ d n => d = 0 ∧ n = 1) (expectWord w) :=
  reads_expect (t := .name w) trivial

lemma reads_name : Reads rest (fun _ d n => d = 0 ∧ n = 1) name := by
  intro r
  refine .peek (fun _ => .unexpected r) fun t ts htokens => ?_
  cases t with
  | name n =>
    refine (ReadsAt.advance htokens trivial).bind fun _ r' d n _ ⟨hd, hn⟩ => ?_
    exact .pure (by simp [hd, hn, depthChange]) r'
  | _ => exact .unexpected r

/-! ## Repetitions -/

variable {step step' : α → Reader (Option α)}

/-- **What one step of a repetition reads**, while no more tokens than `bound` are ahead: it takes a
token if it goes on, and it does not go on without one. -/
structure Steps (rest : List Token) (bound : Nat) (step step' : α → Reader (Option α)) : Prop where
  reads : ∀ a r, r.tokens.length ≤ bound →
    ReadsAt rest (fun b? d n => d = 0 ∧ (b?.isSome → 0 < n)) (step a) (step' a) r
  ends : ∀ a r, r.tokens = [] → (step a).run r = .ok (none, r)

/-- A repetition reads the same with more tokens to bound it. -/
lemma ReadsAt.growing (fuel fuel' : Nat) (a : α) (r : Reading)
    (hstep : Steps rest r.tokens.length step step')
    (hfuel : r.tokens.length ≤ fuel) (hfuel' : r.tokens.length < fuel') :
    ReadsAt rest (fun _ d _ => d = 0) (growing step fuel a) (growing step' fuel' a) r := by
  induction fuel generalizing fuel' a r with
  | zero =>
    obtain ⟨fuel', rfl⟩ : ∃ n, fuel' = n + 1 := ⟨fuel' - 1, by omega⟩
    have hempty : r.tokens = [] := List.length_eq_zero_iff.mp (by omega)
    have hnone := hstep.ends a r hempty
    have hbeyond := (hstep.reads a r (Nat.le_refl _)).beyond
    rw [hnone] at hbeyond
    have hpure : ReadsAt rest (fun _ d _ => d = 0) (Pure.pure a) (Pure.pure a) r := .pure rfl r
    refine ⟨?_, hpure.used⟩
    simp only [Reader.growing, run_bind_ok hbeyond]
    rfl
  | succ fuel ih =>
    obtain ⟨fuel', rfl⟩ : ∃ n, fuel' = n + 1 := ⟨fuel' - 1, by omega⟩
    rw [Reader.growing, Reader.growing]
    refine (hstep.reads a r (Nat.le_refl _)).bind fun b? r' d n hlength ⟨hd, hn⟩ => ?_
    subst hd
    cases b? with
    | none => exact .pure rfl r'
    | some b =>
      have := hn rfl
      have hstep' : Steps rest r'.tokens.length step step' :=
        ⟨fun a r hr => hstep.reads a r (by omega), hstep.ends⟩
      exact (ih fuel' b r' hstep' (by omega) (by omega)).mono fun _ d n h => by simp [h]

/-- What grows step by step, by steps that keep the depth, keeps it. -/
lemma ReadsAt.grow (a : α) (r : Reading) (hstep : Steps rest r.tokens.length step step') :
    ReadsAt rest (fun _ d _ => d = 0) (grow step a) (grow step' a) r :=
  .tokensAhead fun fuel' hfuel' => .growing _ fuel' a r hstep (Nat.le_refl _) hfuel'

/-- What grows by steps that take tokens has grown before these are used up. -/
lemma reads_grow
    (hstep : ∀ a, Reads rest (fun b? d n => d = 0 ∧ (b?.isSome → 0 < n)) (step a))
    (hend : ∀ a r, r.tokens = [] → (step a).run r = .ok (none, r)) (a : α) :
    Reads rest (fun _ d _ => d = 0) (grow step a) :=
  fun r => .grow a r ⟨fun a r _ => hstep a r, hend⟩

/-- Items up to a closing sign, by induction on the fuel: each takes a token, so the tokens
suffice. -/
lemma ReadsAt.itemsUntil_go {closing : Sign} {item : Reader α}
    (hitem : Reads rest (fun _ d n => d = 0 ∧ 0 < n) item) (fuel fuel' : Nat) (items : List α)
    (r : Reading) (hfuel : r.tokens.length ≤ fuel) (hfuel' : r.tokens.length < fuel') :
    ReadsAt rest (fun _ d n => d = (Token.sign closing).depthChange ∧ 0 < n)
      (itemsUntil.go (.sign closing) item fuel items)
      (itemsUntil.go (.sign closing) item fuel' items) r := by
  induction fuel generalizing fuel' items r with
  | zero =>
    obtain ⟨fuel', rfl⟩ : ∃ n, fuel' = n + 1 := ⟨fuel' - 1, by omega⟩
    have hempty : r.tokens = [] := List.length_eq_zero_iff.mp (by omega)
    have hleft : (itemsUntil.go (.sign closing) item 0 items).run r = .error .syntaxError :=
      run_unexpected (by simp [hempty])
    have hright : (itemsUntil.go (.sign closing) item (fuel' + 1) items).run
        (r.before (.closeOutput :: rest)) = .error .syntaxError := by
      rw [itemsUntil.go, run_skip (by simp [Reading.before, hempty])]
      refine run_bind_error ?_
      rw [expectSign, expect, run_skip (by simp [Reading.before, hempty])]
      exact run_unexpected (by simp [Reading.before, hempty])
    exact ⟨by rw [hleft, hright]; rfl, fun _ _ heq => by rw [hleft] at heq; cases heq⟩
  | succ fuel ih =>
    obtain ⟨fuel', rfl⟩ : ∃ n, fuel' = n + 1 := ⟨fuel' - 1, by omega⟩
    rw [itemsUntil.go, itemsUntil.go]
    refine .skip trivial (fun r' _ => .pure (by simp) r') ?_
    refine ((reads_expectSign .comma) r).bind fun _ r₁ d n hr₁ ⟨hd, hn⟩ => ?_
    subst hd hn
    refine .skip trivial (fun r' _ => .pure (by simp [depthChange]) r') ?_
    refine (hitem r₁).bind fun a r₂ d n _ ⟨hd, hn⟩ => ?_
    subst hd
    refine (ih fuel' (a :: items) r₂ (by omega) (by omega)).mono fun _ d n ⟨hd, hn⟩ => ?_
    exact ⟨by simp [hd, depthChange], by omega⟩

/-- Items up to a closing sign take its change of depth. -/
lemma reads_itemsUntil (closing : Sign) {item : Reader α}
    (hitem : Reads rest (fun _ d n => d = 0 ∧ 0 < n) item) :
    Reads rest (fun _ d n => d = (Token.sign closing).depthChange ∧ 0 < n)
      (itemsUntil (.sign closing) item) := by
  intro r
  refine .skip trivial (fun r' _ => .pure (by simp) r') ?_
  refine (hitem r).bind fun a r₁ d n _ ⟨hd, hn⟩ => ?_
  subst hd
  refine .tokensAhead fun fuel' hfuel' => ?_
  refine (ReadsAt.itemsUntil_go hitem _ fuel' [a] r₁ (Nat.le_refl _) hfuel').mono ?_
  intro _ d n ⟨hd, hn⟩
  exact ⟨by simp [hd], by omega⟩

/-! ## Expressions -/

variable {nested value strongest operand : Reader Expr}

/-- Operands with operators between them, grouped to the left, are whole. -/
lemma reads_leftChain {operator? : Token → Option (Expr → Expr → Expr)}
    (hoperand : Reads rest Whole operand) (hend : operator? .closeOutput = none)
    (hflat : ∀ t f, operator? t = some f → t.IsInner ∧ t.depthChange = 0) :
    Reads rest Whole (leftChain operand operator?) := by
  intro r
  refine (hoperand r).bind fun first r₁ d n _ ⟨hd, hn⟩ => ?_
  subst hd
  refine (reads_grow (fun a r => ?_) (fun a r hempty => ?_) first r₁).mono
    fun _ d m hd => ⟨by simp [hd], by omega⟩
  · refine .peek (fun _ => ?_) fun t ts htokens => ?_
    · simpa [hend] using ReadsAt.pure (by simp) r
    · cases hop : operator? t with
      | none => simpa [hop] using ReadsAt.pure (by simp) r
      | some combine =>
        obtain ⟨hinner, hchange⟩ := hflat t combine hop
        simp only [Option.bind_some, hop]
        refine (ReadsAt.advance htokens hinner).bind fun _ r₂ d n _ ⟨hd, hn⟩ => ?_
        refine (hoperand r₂).bind fun b r₃ d' n' _ ⟨hd', hn'⟩ => ?_
        exact .pure ⟨by simp [hd, hd', hchange], fun _ => by omega⟩ r₃
  · rw [run_peek, hempty]
    rfl

lemma reads_countOf {t : Token} (ht : t.IsInner) (hflat : t.depthChange = 0) :
    Reads rest (fun _ d _ => d = 0) (countOf t) := by
  refine reads_grow (fun a r => ?_) (fun a r hempty => ?_) 0
  · refine .skip ht (fun r' _ => ?_) (.pure (by simp) r)
    exact .pure (by simp [hflat]) r'
  · rw [run_skip (by simp [hempty])]
    rfl

lemma reads_adjacentStrings (s : String) :
    Reads rest (fun _ d _ => d = 0) (adjacentStrings s) := by
  refine reads_grow (fun a r => ?_) (fun a r hempty => ?_) s
  · refine .peek (fun _ => .pure (by simp) r) fun t ts htokens => ?_
    cases t with
    | str s =>
      refine (ReadsAt.advance htokens trivial).bind fun _ r₁ d n _ ⟨hd, hn⟩ => ?_
      exact .pure (by simp [hd, hn, depthChange]) r₁
    | _ => exact .pure (by simp) r
  · rw [run_peek, hempty]
    rfl

/-- What follows an opening parenthesis closes it. -/
lemma reads_parenthesized (hnested : Reads rest Whole nested) :
    Reads rest (fun _ d _ => d = -1) (parenthesized nested) := by
  intro r
  refine .skip trivial (fun r₁ _ => .pure (by simp [depthChange]) r₁) ?_
  refine (hnested r).bind fun first r₁ d n _ ⟨hd, hn⟩ => ?_
  subst hd
  refine .skip trivial (fun r₂ _ => ?_) ?_
  · refine (reads_itemsUntil _ hnested r₂).bind fun others r₃ d n _ ⟨hd, hn⟩ => ?_
    exact .pure (by simp [hd, depthChange]) r₃
  · refine (reads_expectSign .closeParen r₁).bind fun _ r₂ d n _ ⟨hd, hn⟩ => ?_
    exact .pure (by simp [hd, depthChange]) r₂

lemma reads_dictEntry (hnested : Reads rest Whole nested) :
    Reads rest Whole (dictEntry nested) := by
  intro r
  refine (hnested r).bind fun key r₁ d n _ ⟨hd, hn⟩ => ?_
  refine (reads_expectSign .colon r₁).bind fun _ r₂ d' n' _ ⟨hd', hn'⟩ => ?_
  refine (hnested r₂).bind fun v r₃ d'' n'' _ ⟨hd'', hn''⟩ => ?_
  exact .pure ⟨by simp [hd, hd', hd'', depthChange], by omega⟩ r₃

/-- A primary expression is whole if the expressions nested in it are. -/
lemma reads_primary (hnested : Reads rest Whole nested) :
    Reads rest Whole (primary nested) := by
  intro r
  refine .peek (fun _ => .unexpected r) fun t ts htokens => ?_
  cases t with
  | name word =>
    refine (ReadsAt.advance htokens trivial).bind fun _ r₁ d n _ ⟨hd, hn⟩ => ?_
    cases constant? word with
    | some v => exact .pure ⟨by simp [hd, depthChange], by omega⟩ r₁
    | none =>
      by_cases hword : word = "caller"
      · simp only [hword, if_true]
        refine (reads_mark r₁).bind fun _ r₂ d n _ ⟨hd, hn⟩ => ?_
        exact .pure ⟨by simp [*, depthChange], by omega⟩ r₂
      · simp only [hword, if_false]
        exact .pure ⟨by simp [hd, depthChange], by omega⟩ r₁
  | str s =>
    refine (ReadsAt.advance htokens trivial).bind fun _ r₁ d n _ ⟨hd, hn⟩ => ?_
    refine (reads_adjacentStrings s r₁).bind fun s r₂ d n _ hd => ?_
    refine .pure ⟨by simp [*, depthChange], by omega⟩ r₂
  | int n =>
    refine (ReadsAt.advance htokens trivial).bind fun _ r₁ d n _ ⟨hd, hn⟩ => ?_
    exact .pure ⟨by simp [hd, depthChange], by omega⟩ r₁
  | float x =>
    refine (ReadsAt.advance htokens trivial).bind fun _ r₁ d n _ ⟨hd, hn⟩ => ?_
    exact .pure ⟨by simp [hd, depthChange], by omega⟩ r₁
  | sign s =>
    cases s with
    | openParen =>
      refine (ReadsAt.advance htokens trivial).bind fun _ r₁ d n _ ⟨hd, hn⟩ => ?_
      refine (reads_parenthesized hnested r₁).mono fun _ d' n' hd' => ?_
      exact ⟨by simp [hd, hd', depthChange], by omega⟩
    | openBracket =>
      refine (ReadsAt.advance htokens trivial).bind fun _ r₁ d n _ ⟨hd, hn⟩ => ?_
      refine .map _ ((reads_itemsUntil _ hnested r₁).mono fun _ d' n' ⟨hd', _⟩ => ?_)
      exact ⟨by simp [hd, hd', depthChange], by omega⟩
    | openBrace =>
      refine (ReadsAt.advance htokens trivial).bind fun _ r₁ d n _ ⟨hd, hn⟩ => ?_
      have hentries := reads_itemsUntil .closeBrace (reads_dictEntry hnested)
      refine (hentries r₁).bind fun entries r₂ d n _ ⟨hd, hn⟩ => ?_
      exact .pure ⟨by simp [*, depthChange], by omega⟩ r₂
    | _ => exact .unexpected r
  | _ => exact .unexpected r

/-- An argument is whole, with a name or without one. -/
lemma reads_argument (hnested : Reads rest Whole nested) (hvalue : Reads rest Whole value) :
    Reads rest Whole (argument nested value) := by
  intro r
  refine .skip trivial (fun r₁ _ => .map _ ((hnested r₁).mono fun _ d n ⟨hd, hn⟩ => ?_)) ?_
  · exact ⟨by simp [hd, depthChange], by omega⟩
  refine .skip trivial (fun r₁ _ => .map _ ((hnested r₁).mono fun _ d n ⟨hd, hn⟩ => ?_)) ?_
  · exact ⟨by simp [hd, depthChange], by omega⟩
  refine (hnested r).bind fun e r₁ d n _ ⟨hd, hn⟩ => ?_
  subst hd
  cases e with
  | name w =>
    refine .skip trivial (fun r₂ _ => .map _ ((hvalue r₂).mono fun _ d' n' ⟨hd', hn'⟩ => ?_)) ?_
    · exact ⟨by simp [hd', depthChange], by omega⟩
    · exact .pure ⟨rfl, by omega⟩ r₁
  | _ => exact .pure ⟨rfl, by omega⟩ r₁

/-- Arguments are whole, with the parentheses around them. -/
lemma reads_arguments (hnested : Reads rest Whole nested) (hvalue : Reads rest Whole value) :
    Reads rest Whole (arguments nested value) := by
  intro r
  refine (reads_expectSign .openParen r).bind fun _ r₁ d n _ ⟨hd, hn⟩ => ?_
  have hitems := reads_itemsUntil .closeParen (reads_argument hnested hvalue)
  refine (hitems r₁).bind fun args r₂ d' n' _ ⟨hd', hn'⟩ => ?_
  by_cases hmixed : isMixed args
  · simp only [hmixed, if_true]
    exact .throw _ _
  · simp only [hmixed]
    exact .pure ⟨by simp [hd, hd', depthChange], by omega⟩ r₂

/-- What follows an opening bracket closes it. -/
lemma reads_subscript (hnested : Reads rest Whole nested) (e : Expr) :
    Reads rest (fun _ d _ => d = -1) (subscript nested e) := by
  unfold subscript
  lift_lets
  extract_lets afterStart
  have hafterStart : ∀ start, Reads rest (fun _ d _ => d = -1) (afterStart start) := by
    intro start
    unfold afterStart
    lift_lets
    extract_lets afterStop
    have hafterStop : ∀ stop, Reads rest (fun _ d _ => d = -1) (afterStop stop) := by
      intro stop
      unfold afterStop
      lift_lets
      extract_lets afterStep
      have hafterStep : ∀ step, Reads rest (fun _ d _ => d = -1) (afterStep step) :=
        fun step r => (reads_expectSign .closeBracket r).bind fun _ r' d n _ ⟨hd, _⟩ =>
          .pure (by simp [hd, depthChange]) r'
      intro r
      refine .skip_flat trivial rfl (fun r₁ => ?_) (hafterStep _ r)
      refine .peek (fun _ => (hnested r₁).then hafterStep) fun t ts _ => ?_
      split
      · exact hafterStep _ r₁
      · exact (hnested r₁).then hafterStep
    intro r
    refine .skip_flat trivial rfl (fun r₁ => ?_) ?_
    · refine .peek (fun _ => (hnested r₁).then hafterStop) fun t ts _ => ?_
      split
      · exact hafterStop _ r₁
      · exact hafterStop _ r₁
      · exact (hnested r₁).then hafterStop
    · refine (reads_expectSign .closeBracket r).bind fun _ r₁ d n _ ⟨hd, _⟩ => ?_
      cases start with
      | some key => exact .pure (by simp [hd, depthChange]) r₁
      | none => exact .throw _ _
  intro r
  refine .peek (fun _ => ?_) fun t ts _ => ?_
  · exact ((hnested r).map some).then hafterStart
  · split
    · exact hafterStart _ r
    · exact ((hnested r).map some).then hafterStart

/-- All that is appended to an expression keeps the depth: members, subscripts and calls. -/
lemma reads_appended (hnested : Reads rest Whole nested) (hvalue : Reads rest Whole value)
    (e : Expr) : Reads rest (fun _ d _ => d = 0) (appended nested value e) := by
  refine reads_grow (fun e r => ?_) (fun a r hempty => by rw [run_peek, hempty]; rfl) e
  refine .peek (fun _ => .pure (by simp) r) fun t ts htokens => ?_
  cases t with
  | sign s =>
    cases s with
    | dot =>
      refine (ReadsAt.advance htokens trivial).bind fun _ r₁ d n _ ⟨hd, hn⟩ => ?_
      refine .peek (fun _ => .unexpected r₁) fun t ts htokens => ?_
      cases t with
      | name m =>
        refine (ReadsAt.advance htokens trivial).bind fun _ r₂ d' n' _ ⟨hd', hn'⟩ => ?_
        exact .pure ⟨by simp [hd, hd', depthChange], fun _ => by omega⟩ r₂
      | int m =>
        refine (ReadsAt.advance htokens trivial).bind fun _ r₂ d' n' _ ⟨hd', hn'⟩ => ?_
        exact .pure ⟨by simp [hd, hd', depthChange], fun _ => by omega⟩ r₂
      | _ => exact .unexpected r₁
    | openBracket =>
      refine (ReadsAt.advance htokens trivial).bind fun _ r₁ d n _ ⟨hd, hn⟩ => ?_
      refine .map _ ((reads_subscript hnested e r₁).mono fun _ d' n' hd' => ?_)
      exact ⟨by simp [hd, hd', depthChange], fun _ => by omega⟩
    | openParen =>
      refine (reads_arguments hnested hvalue r).bind fun args r₁ d n _ ⟨hd, hn⟩ => ?_
      exact .pure ⟨by simp [hd], fun _ => by omega⟩ r₁
    | _ => exact .pure (by simp) r
  | _ => exact .pure (by simp) r

lemma reads_signed (hstrongest : Reads rest Whole strongest) :
    Reads rest Whole (signed strongest) := by
  intro r
  refine (reads_countOf (t := .sign .minus) trivial rfl r).bind fun k r₁ d n _ hd => ?_
  refine (hstrongest r₁).bind fun e r₂ d' n' _ ⟨hd', hn'⟩ => ?_
  exact .pure ⟨by simp [hd, hd'], by omega⟩ r₂

lemma reads_testOf (hnested : Reads rest Whole nested) (hvalue : Reads rest Whole value)
    (hstrongest : Reads rest Whole strongest) (e : Expr) :
    Reads rest (fun _ d _ => d = 0) (testOf nested value strongest e) := by
  intro r
  refine (reads_skip (t := .name "not") trivial rfl r).bind fun negated r₁ d₁ _ _ hd₁ => ?_
  refine (reads_name r₁).bind fun test r₂ d₂ _ _ ⟨hd₂, _⟩ => ?_
  refine .mono (P := fun _ d _ => d = 0) ?_ fun _ d _ hd => by omega
  lift_lets
  extract_lets finish
  have hfinish : ∀ args, Reads rest (fun _ d _ => d = 0) (finish args) := fun _ => .pure rfl
  refine .peek (fun _ => hfinish [] r₂) fun t ts _ => ?_
  split
  · exact (reads_arguments hnested hvalue r₂).then hfinish
  · split
    · refine (reads_signed hstrongest r₂).then fun a r₃ => ?_
      exact (reads_appended hnested hvalue a r₃).bind fun b r₄ d _ _ hd =>
        (hfinish [.plain b] r₄).mono fun _ d' _ hd' => by omega
    · exact hfinish [] r₂
  · exact hfinish [] r₂

lemma reads_filterCall (hnested : Reads rest Whole nested) (hvalue : Reads rest Whole value) :
    Reads rest (fun _ d _ => d = 0) (filterCall nested value) := by
  intro r
  refine (reads_name r).bind fun filter r₁ d₁ _ _ ⟨hd₁, _⟩ => ?_
  refine .mono (P := fun _ d _ => d = 0) ?_ fun _ d _ hd => by omega
  lift_lets
  extract_lets finish
  have hfinish : ∀ args, Reads rest (fun _ d _ => d = 0) (finish args) := fun _ => .pure rfl
  refine .peek (fun _ => hfinish [] r₁) fun t ts _ => ?_
  split
  · exact (reads_arguments hnested hvalue r₁).then hfinish
  · exact hfinish [] r₁

/-- All filters and tests behind an expression keep the depth. -/
lemma reads_filtered (hnested : Reads rest Whole nested) (hvalue : Reads rest Whole value)
    (hstrongest : Reads rest Whole strongest) (e : Expr) :
    Reads rest (fun _ d _ => d = 0) (filtered nested value strongest e) := by
  refine reads_grow (fun e r => ?_) (fun a r hempty => ?_) e
  · refine .skip trivial (fun r₁ _ => ?_) (.skip trivial (fun r₁ _ => ?_) (.pure (by simp) r))
    · refine (reads_filterCall hnested hvalue r₁).bind fun f r₂ d _ _ hd => ?_
      exact .pure ⟨by simp [hd, depthChange], fun _ => by omega⟩ r₂
    · refine .map _ ((reads_testOf hnested hvalue hstrongest e r₁).mono fun _ d _ hd => ?_)
      exact ⟨by simp [hd, depthChange], fun _ => by omega⟩
  · rw [skipSign, run_skip (by simp [hempty]), skipWord]
    exact run_skip (by simp [hempty])

/-- A unary expression, with all that is appended to it, is whole. -/
lemma reads_unary (hnested : Reads rest Whole nested) (hvalue : Reads rest Whole value)
    (hstrongest : Reads rest Whole strongest) :
    Reads rest Whole (unary nested value strongest) := by
  intro r
  refine (reads_signed hstrongest r).bind fun a r₁ d₁ n₁ _ ⟨hd₁, hn₁⟩ => ?_
  refine (reads_appended hnested hvalue a r₁).bind fun b r₂ d₂ n₂ _ hd₂ => ?_
  refine (reads_filtered hnested hvalue hstrongest b r₂).mono fun _ d₃ n₃ hd₃ => ?_
  exact ⟨by simp [hd₁, hd₂, hd₃], by omega⟩

/-- No operator of comparison opens or closes anything. -/
lemma comparison?_flat {t : Token} {c : Comparison} (h : comparison? t = some c) :
    t.IsInner ∧ t.depthChange = 0 := by
  unfold comparison? at h
  split at h <;> first | exact ⟨trivial, rfl⟩ | cases h

lemma reads_compared (hoperand : Reads rest Whole operand) :
    Reads rest Whole (compared operand) := by
  intro r
  refine (hoperand r).bind fun first r₁ d n _ ⟨hd, hn⟩ => ?_
  refine (reads_grow (fun a r => ?_) (fun a r hempty => ?_) [] r₁).bind
    fun others r₂ d' n' _ hd' => ?_
  · refine .peek (fun _ => .pure (by simp) r) fun t ts htokens => ?_
    cases hop : comparison? t with
    | none => simpa [hop] using ReadsAt.pure (by simp) r
    | some c =>
      obtain ⟨hinner, hflat⟩ := comparison?_flat hop
      simp only [Option.bind_some, hop]
      refine (ReadsAt.advance htokens hinner).bind fun _ r₂ d₂ n₂ _ ⟨hd₂, hn₂⟩ => ?_
      have hentry : Reads rest (fun _ d _ => d = 0) (do
          let e ← operand
          pure (some ((c, e) :: a))) :=
        fun r => (hoperand r).bind fun e r' d _ _ ⟨hd, _⟩ => .pure (by simp [hd]) r'
      split
      · refine (reads_expectWord "in" r₂).bind fun u r₃ d₃ n₃ _ ⟨hd₃, hn₃⟩ => ?_
        refine (hentry r₃).mono fun b? d' n' hd' => ?_
        exact ⟨by simp [hd₂, hflat, hd₃, hd'], fun _ => by omega⟩
      · refine (hentry r₂).mono fun b? d' n' hd' => ?_
        exact ⟨by simp [hd₂, hflat, hd'], fun _ => by omega⟩
  · rw [run_peek, hempty]
    rfl
  · exact .pure ⟨by simp [hd, hd'], by omega⟩ r₂

/-- No operator of a table opens or closes anything, if no sign of the table does. -/
lemma binaryOf_flat (table : List (Sign × Operator))
    (htable : ∀ s ∈ table.map (·.1), (Token.sign s).depthChange = 0) {t : Token}
    {f : Expr → Expr → Expr} (h : binaryOf table t = some f) : t.IsInner ∧ t.depthChange = 0 := by
  cases t with
  | sign s =>
    obtain ⟨op, hop, -⟩ := Option.map_eq_some_iff.mp h
    obtain ⟨before, behind, rfl, -⟩ := List.lookup_eq_some_iff.mp hop
    exact ⟨trivial, htable s (by simp)⟩
  | _ => cases h

/-- No operator that is a word opens or closes anything. -/
lemma wordOf_flat (word : String) (combine : Expr → Expr → Expr) {f : Expr → Expr → Expr}
    {t : Token}
    (h : wordOf word combine t = some f) : t.IsInner ∧ t.depthChange = 0 := by
  unfold wordOf at h
  split at h
  · subst t
    exact ⟨trivial, rfl⟩
  · cases h

/-- An expression without a condition is whole: level upon level of operators. -/
lemma reads_unconditional (hnested : Reads rest Whole nested) (hvalue : Reads rest Whole value)
    (hstrongest : Reads rest Whole strongest) :
    Reads rest Whole (unconditional nested value strongest) := by
  have hpowers := reads_leftChain (reads_unary hnested hvalue hstrongest) rfl
    fun _ _ => binaryOf_flat [(.power, .power)] (by decide)
  have hproducts := reads_leftChain hpowers rfl fun _ _ => binaryOf_flat
    [(.times, .multiply), (.over, .divide), (.overFloor, .divideFloor), (.modulo, .remainder)]
    (by decide)
  have htexts := reads_leftChain hproducts rfl
    fun _ _ => binaryOf_flat [(.tilde, .concat)] (by decide)
  have hsums := reads_leftChain htexts rfl
    fun _ _ => binaryOf_flat [(.plus, .add), (.minus, .subtract)] (by decide)
  have hnegations : Reads rest Whole _ := fun r =>
    (reads_countOf (t := .name "not") trivial rfl r).bind fun n r₁ d₁ _ _ hd₁ =>
      (reads_compared hsums r₁).bind fun e r₂ d₂ n₂ _ ⟨hd₂, hn₂⟩ =>
        .pure (a := times Expr.not n e) ⟨by simp [hd₁, hd₂], by omega⟩ r₂
  have hconjunctions := reads_leftChain hnegations rfl
    fun _ _ => wordOf_flat "and" .and
  exact reads_leftChain hconjunctions rfl fun _ _ => wordOf_flat "or" .or

/-- An expression with conditions is whole, by induction on the fuel for the conditions behind
it. -/
lemma ReadsAt.conditional (hoperand : Reads rest Whole operand) (fuel fuel' : Nat) (r : Reading)
    (hfuel : r.tokens.length ≤ fuel) (hfuel' : r.tokens.length < fuel') :
    ReadsAt rest Whole (Reader.conditional operand fuel) (Reader.conditional operand fuel') r := by
  induction fuel generalizing fuel' r with
  | zero =>
    obtain ⟨fuel', rfl⟩ : ∃ n, fuel' = n + 1 := ⟨fuel' - 1, by omega⟩
    have hbeyond := (hoperand r).beyond
    cases heq : operand.run r with
    | error why =>
      rw [heq] at hbeyond
      refine ⟨?_, fun _ _ h => by rw [Reader.conditional, heq] at h; cases h⟩
      simp only [Reader.conditional, run_bind_error hbeyond, heq]
      rfl
    | ok x =>
      obtain ⟨ts, htokens, -, -, hn⟩ := (hoperand r).used x.1 x.2 heq
      have := congrArg List.length htokens
      simp at this
      omega
  | succ fuel ih =>
    obtain ⟨fuel', rfl⟩ : ∃ n, fuel' = n + 1 := ⟨fuel' - 1, by omega⟩
    refine (hoperand r).bind fun first r₁ d₁ n₁ _ ⟨hd₁, hn₁⟩ => ?_
    refine (ReadsAt.grow first r₁ ⟨fun e r₂ hr₂ => ?_, fun e r₂ hempty => ?_⟩).mono
      fun _ d n hd => ⟨by simp [hd₁, hd], by omega⟩
    · refine .skip trivial (fun r₃ hr₃ => ?_) (.pure (by simp) r₂)
      refine (hoperand r₃).bind fun test r₄ d₄ n₄ _ ⟨hd₄, hn₄⟩ => ?_
      refine .mono (P := fun _ d _ => d = 0) ?_ fun b? d n hd =>
        ⟨by simp [hd₄, hd, depthChange], fun _ => by omega⟩
      lift_lets
      extract_lets finish
      have hfinish : ∀ otherwise, Reads rest (fun _ d _ => d = 0) (finish otherwise) :=
        fun _ => .pure rfl
      refine .skip trivial (fun r₅ hr₅ => ?_) (hfinish _ r₄)
      refine (ih fuel' r₅ (by omega) (by omega)).bind fun otherwise r₆ d₆ _ _ ⟨hd₆, _⟩ => ?_
      exact (hfinish otherwise r₆).mono fun _ d n hd => by simp [hd₆, hd, depthChange]
    · exact run_skip (by simp [hempty])

/-- Nested expressions and the strongest ones, each by the other one level down. -/
lemma reads_exprAt_primaryAt (depth : Nat) :
    Reads rest Whole (exprAt depth) ∧ Reads rest Whole (primaryAt depth) := by
  induction depth with
  | zero =>
    rw [exprAt, primaryAt]
    exact ⟨.throw _, .throw _⟩
  | succ depth ih =>
    rw [exprAt, primaryAt]
    refine ⟨fun r => ?_, reads_primary ih.1⟩
    exact .tokensAhead fun fuel' hfuel' =>
      .conditional (reads_unconditional ih.1 ih.1 ih.2) _ fuel' r (Nat.le_refl _) hfuel'

/-- **An expression reads the same with more behind it** and closes what it opens. -/
theorem reads_exprAt (depth : Nat) : Reads rest Whole (exprAt depth) :=
  (reads_exprAt_primaryAt depth).1

/-- What an expression is made of. -/
theorem exprAt_used {depth : Nat} {r r' : Reading} {e : Expr}
    (h : (exprAt depth).run r = .ok (e, r')) : ∃ ts : List Token, r.tokens = ts ++ r'.tokens ∧
      (∀ t ∈ ts, t.IsInner) ∧ Token.depth ts = 0 ∧ 0 < ts.length := by
  have hreads : Reads [] Whole (exprAt depth) := reads_exprAt depth
  exact (hreads r).used e r' h

end Reader

end Connector.Template
