import Connector.Proofs.Template.Edges
import Connector.Proofs.Template.Statements
import Connector.Template
import Mathlib.Data.List.Basic

/-!
# Names

What a name is worth, how it is read and how it is scanned.

* `Rendering.lookup_start` — a name stands for its value in the context, else for a function.
* `ReadsAll` — a reader of all there is; every layer of the grammar hands a single name on.
* `Expr.read?_name` — a name by itself is read as that name.
* `IsName`, `Token.readToken_name` — a name is one token, up to a character that does not continue
  it.
-/

namespace Connector.Template

open Reader

/-! ## Values of names -/

/-- Texts are equal in the order of texts if they are the same. -/
lemma Value.compareText_eq_iff {a b : String} : compareText a b = .eq ↔ a = b := by
  unfold compareText
  constructor
  · intro h
    split at h
    · cases h
    · next hab =>
      split at h
      · cases h
      · next hba => exact Std.le_antisymm (String.not_lt.mp hba) (String.not_lt.mp hab)
  · rintro rfl
    rw [if_neg (String.lt_irrefl a), if_neg (String.lt_irrefl a)]

lemma Value.compare_str (a b : String) (safe safe' : Bool) :
    Value.compare (.str a safe) (.str b safe') = compareText a b := by
  simp [Value.compare, compareLeaf, pair?, kind, compareInt]

/-- An entry of an object is found under its name as in the context that it was made from. -/
lemma Value.entryUnder?_ofJsonFields (name : String) (fields : Context) :
    entryUnder? (.str name false) (ofJsonFields fields) = (Record.get? name fields).map ofJson := by
  induction fields with
  | nil => rfl
  | cons entry rest ih =>
    obtain ⟨k, v⟩ := entry
    rw [ofJsonFields, entryUnder?, Value.compare_str, ih, Record.get?]
    by_cases hk : k = name
    · rw [if_pos (compareText_eq_iff.mpr hk), if_pos hk]
      rfl
    · rw [if_neg (mt compareText_eq_iff.mp hk), if_neg hk]

/-- **The value of a name in a context**: the one it has there, or a function of that name. -/
lemma Rendering.lookup_start (template : List Stmt) (context : Context) (name : String) :
    (Rendering.start template context).lookup name =
      match Record.get? name context with
      | some v => some (Value.ofJson v)
      | none => if functionNames.contains name then some (.function name) else none := by
  unfold Rendering.lookup
  have hscopes : findInScopes (Rendering.start template context).closures name
      (Rendering.start template context).scopes = none := rfl
  have hcontext : (Rendering.start template context).context.attribute? name =
      (Record.get? name context).map Value.ofJson := Value.entryUnder?_ofJsonFields name context
  rw [hscopes, hcontext]
  cases Record.get? name context <;> rfl

/-- A name comes to what is known under it, or to a missing value. -/
lemma Expr.eval_name (run : List Stmt → RenderM Unit) (name : String) (r : Rendering) :
    (Expr.eval run (.name name)).run r = .ok ((r.lookup name).getD Value.missing, r) := by
  rw [Expr.eval]
  rfl

/-! ## Reading a name -/

/-- The words that stand for something else at the beginning of an expression. -/
def keywords : List String := ["true", "True", "false", "False", "none", "None", "not"]

/-- **A reader of all the tokens there are.** -/
def ReadsAll (m : Reader Expr) (e : Expr) (tokens : List Token) : Prop :=
  ∀ r : Reading, r.tokens = tokens → ∃ r', m.run r = .ok (e, r') ∧ r'.tokens = []

variable {operand : Reader Expr} {e : Expr} {tokens : List Token}

/-- No repetition goes on without a token. -/
lemma run_grow_end {α : Type} {step : α → Reader (Option α)} {a : α} {r : Reading}
    (h : r.tokens = []) : (grow step a).run r = .ok (a, r) := by
  have : (grow step a).run r = (growing step r.tokens.length a).run r := rfl
  rw [this, h]
  rfl

/-- An operand that is all there is needs no operator. -/
lemma ReadsAll.leftChain (h : ReadsAll operand e tokens)
    (operator? : Token → Option (Expr → Expr → Expr)) :
    ReadsAll (leftChain operand operator?) e tokens := by
  intro r hr
  obtain ⟨r', hrun, hend⟩ := h r hr
  exact ⟨r', (run_bind_ok hrun).trans (run_grow_end hend), hend⟩

lemma ReadsAll.compared (h : ReadsAll operand e tokens) : ReadsAll (compared operand) e tokens := by
  intro r hr
  obtain ⟨r', hrun, hend⟩ := h r hr
  exact ⟨r', (run_bind_ok hrun).trans (run_bind_ok (run_grow_end hend)), hend⟩

lemma ReadsAll.conditional (h : ReadsAll operand e tokens) (fuel : Nat) :
    ReadsAll (conditional operand fuel) e tokens := by
  cases fuel with
  | zero => exact h
  | succ fuel =>
    intro r hr
    obtain ⟨r', hrun, hend⟩ := h r hr
    exact ⟨r', (run_bind_ok hrun).trans (run_grow_end hend), hend⟩

/-- A token that is not there is counted as none. -/
lemma run_countOf_zero {t u : Token} (hne : u ≠ t) {r : Reading} {ts : List Token}
    (hr : r.tokens = u :: ts) : (countOf t).run r = .ok (0, r) := by
  have hgrow : (countOf t).run r = (growing (fun n => do
      if ← skip t then pure (some (n + 1)) else pure none) r.tokens.length 0).run r := rfl
  have hnone : (do
      if ← skip t then pure (some (0 + 1)) else pure none : Reader (Option Nat)).run r =
        .ok (none, r) := by
    rw [run_skip (by simp [hr, hne])]
    rfl
  rw [hgrow, hr, List.length_cons, growing, run_bind_ok hnone]
  rfl

/-- A name that is no keyword is no constant. -/
lemma constant?_eq_none {name : String} (h : name ∉ keywords) : constant? name = none := by
  simp only [keywords, List.mem_cons, not_or] at h
  unfold constant?
  split <;> simp_all

/-- A name is a primary expression by itself. -/
lemma readsAll_primary {name : String} (h : name ∉ keywords) (nested : Reader Expr) :
    ReadsAll (primary nested) (.name name) [.name name] := by
  intro r hr
  have hrun : (primary nested).run r =
      (do if name = "caller" then modify fun r => { r with usesCaller := true }
          pure (.name name) : Reader Expr).run { r with tokens := [] } := by
    rw [primary, run_peek, hr]
    simp only [List.head?_cons, constant?_eq_none h]
    exact run_bind_ok (run_advance hr)
  rw [hrun]
  by_cases hcaller : name = "caller"
  · rw [if_pos hcaller]
    exact ⟨_, rfl, rfl⟩
  · rw [if_neg hcaller]
    exact ⟨_, rfl, rfl⟩

/-- A name has no sign before it, and nothing appended to it. -/
lemma ReadsAll.unary {strongest : Reader Expr} {name : String}
    (h : ReadsAll strongest e [.name name]) (nested value : Reader Expr) :
    ReadsAll (unary nested value strongest) e [.name name] := by
  intro r hr
  obtain ⟨r', hrun, hend⟩ := h r hr
  have hsigned : (signed strongest).run r = .ok (e, r') := by
    refine (run_bind_ok (run_countOf_zero (by simp) hr)).trans ?_
    exact run_bind_ok hrun
  refine ⟨r', ?_, hend⟩
  refine (run_bind_ok hsigned).trans ?_
  exact (run_bind_ok (run_grow_end hend)).trans (run_grow_end hend)

/-- A name goes through all levels of operators. -/
lemma ReadsAll.unconditional {strongest : Reader Expr} {name : String} (hnot : name ≠ "not")
    (h : ReadsAll strongest e [.name name]) (nested value : Reader Expr) :
    ReadsAll (unconditional nested value strongest) e [.name name] := by
  refine .leftChain (.leftChain ?_ _) _
  intro r hr
  have hpowers := (h.unary nested value).leftChain (binaryOf [(.power, .power)])
  have hproducts := hpowers.leftChain (binaryOf [(.times, .multiply), (.over, .divide),
    (.overFloor, .divideFloor), (.modulo, .remainder)])
  have htexts := hproducts.leftChain (binaryOf [(.tilde, .concat)])
  have hsums := htexts.leftChain (binaryOf [(.plus, .add), (.minus, .subtract)])
  obtain ⟨r', hrun, hend⟩ := hsums.compared r hr
  refine ⟨r', ?_, hend⟩
  refine (run_bind_ok (run_countOf_zero ?_ hr)).trans (run_bind_ok hrun)
  simpa using hnot

/-- A name that is no keyword is read as an expression, and all of it. -/
lemma readsAll_exprAt {name : String} (h : name ∉ keywords) :
    ReadsAll (exprAt maxDepth) (.name name) [.name name] := by
  have hnot : name ≠ "not" := by
    rintro rfl
    exact h (by decide)
  have hprimary : ReadsAll (primaryAt 149) (.name name) [.name name] := readsAll_primary h _
  intro r hr
  obtain ⟨r', hrun, hend⟩ :=
    ((hprimary.unconditional hnot (exprAt 149) (exprAt 149)).conditional r.tokens.length) r hr
  exact ⟨r', hrun, hend⟩

/-- **A name by itself is read as that name.** -/
theorem Expr.read?_name {name : String} (h : name ∉ keywords) :
    Expr.read? [.name name] = .ok (.name name) :=
  Expr.read?_ok_iff.mpr (readsAll_exprAt h (.of [.name name]) rfl)

/-! ## Scanning a name -/

/-- **A name**: what the grammar reads as one token and as no other word. -/
structure IsName (name : String) : Prop where
  starts : ∃ c cs, name.toList = c :: cs ∧ Token.startsName c ∧ ∀ d ∈ cs, Token.continuesName d
  notKeyword : name ∉ keywords

/-- Whether a text is a name. -/
def isName (name : String) : Bool :=
  match name.toList with
  | [] => false
  | c :: cs => Token.startsName c && cs.all Token.continuesName && !keywords.contains name

lemma isName_iff {name : String} : isName name ↔ IsName name := by
  unfold isName
  constructor
  · intro h
    split at h
    · cases h
    · next c cs hname =>
      simp only [Bool.and_eq_true, List.all_eq_true, Bool.not_eq_true', List.contains_eq_mem,
        decide_eq_false_iff_not] at h
      exact ⟨⟨c, cs, hname, h.1.1, h.1.2⟩, h.2⟩
  · rintro ⟨⟨c, cs, hname, hc, hcs⟩, hkeyword⟩
    rw [hname]
    simpa [hc, hkeyword] using hcs

instance (name : String) : Decidable (IsName name) := decidable_of_iff _ isName_iff

namespace Token

/-- The letters, by their numbers. -/
lemma toNat_of_isAlpha {c : Char} (h : c.isAlpha) :
    65 ≤ c.toNat ∧ c.toNat ≤ 90 ∨ 97 ≤ c.toNat ∧ c.toNat ≤ 122 := by
  rcases Bool.or_eq_true_iff.mp h with h | h
  · have h : 'A'.val ≤ c.val ∧ c.val ≤ 'Z'.val := of_decide_eq_true h
    exact .inl ⟨UInt32.le_iff_toNat_le.mp h.1, UInt32.le_iff_toNat_le.mp h.2⟩
  · obtain ⟨hl, hu⟩ := Bool.and_eq_true_iff.mp h
    exact .inr ⟨UInt32.le_iff_toNat_le.mp (of_decide_eq_true hl),
      UInt32.le_iff_toNat_le.mp (of_decide_eq_true hu)⟩

/-- The digits, by their numbers. -/
lemma toNat_of_isDigit {c : Char} (h : c.isDigit) : 48 ≤ c.toNat ∧ c.toNat ≤ 57 := by
  obtain ⟨hl, hu⟩ := Bool.and_eq_true_iff.mp h
  exact ⟨UInt32.le_iff_toNat_le.mp (of_decide_eq_true hl),
    UInt32.le_iff_toNat_le.mp (of_decide_eq_true hu)⟩

/-- No digit starts a name. -/
lemma not_isDigit_of_startsName {c : Char} (h : startsName c) : c.isDigit = false := by
  rw [Bool.eq_false_iff]
  intro hdigit
  have hdigit := toNat_of_isDigit hdigit
  simp only [startsName, Bool.or_eq_true, decide_eq_true_eq] at h
  rcases h with h | rfl
  · have := toNat_of_isAlpha h
    omega
  · exact absurd hdigit (by decide)

lemma narrowSign?_of_startsName {c : Char} (h : startsName c) : narrowSign? c = none := by
  unfold narrowSign?
  split <;> first | rfl | exact absurd h (by decide)

lemma wideSign?_of_startsName {c : Char} (h : startsName c) (d : Char) : wideSign? c d = none := by
  unfold wideSign?
  split <;> first | rfl | exact absurd h (by decide)

/-- A name ends where a character does not continue it. -/
lemma readToken_name {c : Char} {cs : List Char} (hc : startsName c)
    (hcs : ∀ d ∈ cs, continuesName d) (rest : List Char)
    (hrest : ∀ d, rest.head? = some d → continuesName d = false) :
    readToken (c :: cs ++ rest) = (.name (String.ofList (c :: cs)), rest) := by
  have hsign : readSign? (c :: cs ++ rest) = none := by
    rw [List.cons_append]
    cases cs ++ rest with
    | nil => simp [readSign?, narrowSign?_of_startsName hc]
    | cons d x => simp [readSign?, wideSign?_of_startsName hc, narrowSign?_of_startsName hc]
  have hquote : ¬ (c = '\'' ∨ c = '"') := by
    rintro (rfl | rfl)
    · exact absurd hc (by decide)
    · exact absurd hc (by decide)
  have hall : ∀ d ∈ c :: cs, continuesName d := by
    intro d hd
    rcases List.mem_cons.mp hd with rfl | hd
    · exact continuesName_of_startsName hc
    · exact hcs d hd
  have htake : rest.takeWhile continuesName = [] ∧ rest.dropWhile continuesName = rest := by
    cases rest with
    | nil => exact ⟨rfl, rfl⟩
    | cons d rest => simp [hrest d rfl]
  unfold readToken
  rw [hsign]
  simp only [List.cons_append, if_neg hquote, not_isDigit_of_startsName hc, hc, if_true]
  rw [← List.cons_append, List.takeWhile_append_of_pos hall, List.dropWhile_append_of_pos hall,
    htake.1, htake.2, List.append_nil]
  rfl

end Token

end Connector.Template
