import Connector.Control
import Mathlib.Data.List.Infix

/-!
# Where tokens come from

What was done with controls says which token descends from which, whatever the tokens are.  The
tokens themselves are paths, and one path is a prefix of another one exactly when their controls are
so related: no two controls come by the same token unless they share it.

* `Origin`, `origins` — where the token of each control comes from, by the steps taken.
* `Origin.Covers` — the token of one control is that of another one or an ancestor of it.
* `Descent` — tokens that come from where the origins say; every step keeps it.
* **`Descent.covers_iff`** — prefixes are ancestors.
-/

namespace Connector

namespace Handle

lemma shows_token (s : JobState) (h : Handle) : (h.shows s).token = h.token := by
  rw [shows]; split <;> rfl

lemma dropped_token (h : Handle) : h.dropped.token = h.token := rfl

lemma stopping_token (h : Handle) : h.stopping.token = h.token := rfl

end Handle

namespace Panel

/-! ## Origins -/

/-- **Where the token of a control comes from**: it is new, or comes from the token of another
control. -/
inductive Origin where
  | own
  | childOf (parent : Nat)
  | sameAs (other : Nat)
  deriving DecidableEq

/-- The origin that a step adds, with so many controls there. -/
def Step.origin? (count : Nat) : Step → Option Origin
  | .create => some .own
  | .descend parent => if parent < count then some (.childOf parent) else none
  | .share other => if other < count then some (.sameAs other) else none
  | _ => none

/-- The origins after one more step. -/
def grow (os : List Origin) (s : Step) : List Origin := os ++ (s.origin? os.length).toList

/-- **The origins of all controls** that some steps make. -/
def origins (steps : List Step) : List Origin := steps.foldl grow []

/-- **The token of one control is that of another one or an ancestor of it.** -/
inductive Origin.Covers (os : List Origin) : Nat → Nat → Prop where
  | self (i : Nat) : Covers os i i
  | child {i j parent : Nat} (hj : os[j]? = some (.childOf parent)) (h : Covers os i parent) :
      Covers os i j
  | shared {i j other : Nat} (hj : os[j]? = some (.sameAs other)) (h : Covers os i other) :
      Covers os i j
  | sharing {i j other : Nat} (hi : os[i]? = some (.sameAs other)) (h : Covers os other j) :
      Covers os i j

/-- The token of an origin, made after other tokens. -/
def Origin.token? (ts : List Token) : Origin → Option Token
  | .own => some [ts.length]
  | .childOf parent => ts[parent]?.map (·.child ts.length)
  | .sameAs other => ts[other]?

/-! ## Descent -/

/-- **Tokens that come from where the origins say**, each made after those before it. -/
structure Descent (os : List Origin) (ts : List Token) : Prop where
  length : ts.length = os.length
  token : ∀ {j : Nat} {o : Origin}, os[j]? = some o →
    ∃ t, o.token? (ts.take j) = some t ∧ ts[j]? = some t

namespace Descent

variable {os : List Origin} {ts : List Token} {i j : Nat} {a b t : Token}

lemma empty : Descent [] [] := ⟨rfl, fun h => by simp at h⟩

/-- A token that comes from where it should may be added. -/
lemma add (d : Descent os ts) {o : Origin} (h : o.token? ts = some t) :
    Descent (os ++ [o]) (ts ++ [t]) := by
  refine ⟨by simp [d.length], @fun j o' hj => ?_⟩
  rcases Nat.lt_or_ge j os.length with old | new
  · rw [List.getElem?_append_left old] at hj
    obtain ⟨t', made, there⟩ := d.token hj
    have before : j < ts.length := d.length ▸ old
    refine ⟨t', ?_, by rwa [List.getElem?_append_left before]⟩
    rwa [List.take_append_of_le_length before.le]
  · rw [List.getElem?_append_right new, List.getElem?_singleton] at hj
    obtain ⟨last, rfl⟩ : j = os.length ∧ o = o' := by
      split at hj
      · exact ⟨by omega, Option.some.inj hj⟩
      · cases hj
    subst last
    rw [← d.length]
    exact ⟨t, by simpa using h, by simp⟩

/-- A token made from an earlier one. -/
lemma getElem?_of_take {k : Nat} (h : (ts.take j)[k]? = some t) : k < j ∧ ts[k]? = some t := by
  rw [List.getElem?_take] at h
  split at h
  · exact ⟨by assumption, h⟩
  · cases h

/-- A number of its own stands at its place. -/
lemma length_take (hj : ts[j]? = some t) : (ts.take j).length = j := by
  obtain ⟨before, -⟩ := List.getElem?_eq_some_iff.mp hj
  rw [List.length_take, Nat.min_eq_left before.le]

lemma own (d : Descent os ts) (ho : os[j]? = some .own) : ts[j]? = some [j] := by
  obtain ⟨t, made, there⟩ := d.token ho
  rw [there, ← made, Origin.token?, length_take there]

lemma child (d : Descent os ts) (ho : os[j]? = some (.childOf i)) :
    ∃ parent, i < j ∧ ts[i]? = some parent ∧ ts[j]? = some (parent ++ [j]) := by
  obtain ⟨t, made, there⟩ := d.token ho
  obtain ⟨parent, here, rfl⟩ := Option.map_eq_some_iff.mp made
  obtain ⟨earlier, here⟩ := getElem?_of_take here
  rw [length_take there] at there
  exact ⟨parent, earlier, here, there⟩

lemma same (d : Descent os ts) (ho : os[j]? = some (.sameAs i)) :
    ∃ t, i < j ∧ ts[i]? = some t ∧ ts[j]? = some t := by
  obtain ⟨t, made, there⟩ := d.token ho
  obtain ⟨earlier, here⟩ := getElem?_of_take made
  exact ⟨t, earlier, here, there⟩

/-- Where the token at a place comes from: it is an earlier one, or ends with its own number. -/
lemma origin (d : Descent os ts) (hj : ts[j]? = some t) :
    (∃ i, os[j]? = some (.sameAs i) ∧ i < j ∧ ts[i]? = some t) ∨
      ∃ above : Token, t = above ++ [j] ∧
        (above = [] ∨ ∃ i, os[j]? = some (.childOf i) ∧ i < j ∧ ts[i]? = some above) := by
  obtain ⟨before, -⟩ := List.getElem?_eq_some_iff.mp hj
  obtain ⟨o, ho⟩ : ∃ o, os[j]? = some o := ⟨_, List.getElem?_eq_getElem (d.length ▸ before)⟩
  cases o with
  | own => exact Or.inr ⟨[], Option.some.inj (hj.symm.trans (d.own ho)), Or.inl rfl⟩
  | childOf i =>
      obtain ⟨parent, earlier, here, there⟩ := d.child ho
      exact Or.inr ⟨parent, Option.some.inj (hj.symm.trans there), Or.inr ⟨i, ho, earlier, here⟩⟩
  | sameAs i =>
      obtain ⟨t', earlier, here, there⟩ := d.same ho
      obtain rfl : t = t' := Option.some.inj (hj.symm.trans there)
      exact Or.inl ⟨i, ho, earlier, here⟩

/-- No token is empty. -/
lemma ne_nil (d : Descent os ts) (hj : ts[j]? = some t) : t ≠ [] := by
  induction j using Nat.strong_induction_on with
  | _ j ih =>
    rcases d.origin hj with ⟨other, -, earlier, there⟩ | ⟨parent, rfl, -⟩
    · exact ih other earlier there
    · simp

/-- Controls with one token share it. -/
lemma covers_of_eq (d : Descent os ts) (hi : ts[i]? = some t) (hj : ts[j]? = some t) :
    Origin.Covers os i j := by
  induction h : i + j using Nat.strong_induction_on generalizing i j with
  | _ n ih =>
    subst h
    rcases d.origin hi with ⟨other, shares, earlier, there⟩ | ⟨parent, rfl, -⟩
    · exact .sharing shares (ih (other + j) (by omega) there hj rfl)
    · rcases d.origin hj with ⟨other, shares, earlier, there⟩ | ⟨parent', ends, -⟩
      · exact .shared shares (ih (i + other) (by omega) hi there rfl)
      · obtain rfl : i = j := by simpa using (List.append_inj' ends rfl).2
        exact .self i

/-- The control of a prefix is an ancestor's. -/
lemma covers_of_prefix (d : Descent os ts) (hi : ts[i]? = some a) (hj : ts[j]? = some b)
    (h : a <+: b) : Origin.Covers os i j := by
  induction j using Nat.strong_induction_on generalizing b with
  | _ j ih =>
    rcases d.origin hj with ⟨other, shares, earlier, there⟩ | ⟨parent, rfl, comes⟩
    · exact .shared shares (ih other earlier there h)
    · rcases List.prefix_concat_iff.mp h with whole | above
      · exact d.covers_of_eq hi (whole ▸ hj)
      · rcases comes with rfl | ⟨place, descends, earlier, there⟩
        · exact absurd (List.prefix_nil.mp above) (d.ne_nil hi)
        · exact .child descends (ih place earlier there above)

/-- The token of an ancestor is a prefix. -/
lemma prefix_of_covers (d : Descent os ts) (h : Origin.Covers os i j) (hi : ts[i]? = some a)
    (hj : ts[j]? = some b) : a <+: b := by
  induction h generalizing a b with
  | self i => rw [Option.some.inj (hi.symm.trans hj)]
  | child descends _ ih =>
      obtain ⟨parent, -, here, there⟩ := d.child descends
      obtain rfl : b = parent ++ [_] := Option.some.inj (hj.symm.trans there)
      exact (ih hi here).trans (List.prefix_append _ _)
  | shared shares _ ih =>
      obtain ⟨t, -, here, there⟩ := d.same shares
      obtain rfl : b = t := Option.some.inj (hj.symm.trans there)
      exact ih hi here
  | sharing shares _ ih =>
      obtain ⟨t, -, here, there⟩ := d.same shares
      obtain rfl : a = t := Option.some.inj (hi.symm.trans there)
      exact ih here hj

/-- **Prefixes are ancestors.** -/
theorem covers_iff (d : Descent os ts) (hi : ts[i]? = some a) (hj : ts[j]? = some b) :
    a <+: b ↔ Origin.Covers os i j :=
  ⟨d.covers_of_prefix hi hj, fun h => d.prefix_of_covers h hi hj⟩

end Descent

/-! ## Steps -/

/-- The tokens of all controls. -/
def tokens (p : Panel) : List Token := p.handles.map (·.token)

lemma tokens_change (n : Nat) {f : Handle → Handle} (keeps : ∀ h, (f h).token = h.token)
    (p : Panel) : (p.change n f).tokens = p.tokens := by
  simp only [tokens, change]
  refine List.ext_getElem? fun i => ?_
  simp only [List.getElem?_map, List.getElem?_modify]
  cases p.handles[i]? with
  | none => rfl
  | some h =>
      by_cases here : n = i
      · simp [here, keeps]
      · simp [here]

lemma tokens_add (t : Token) (p : Panel) : (p.add t).tokens = p.tokens ++ [t] := by
  simp [tokens, add, Handle.fresh]

lemma Descent.count {os : List Origin} {p : Panel} (d : Descent os p.tokens) :
    p.handles.length = os.length := by
  rw [← d.length, tokens, List.length_map]

/-- **A step keeps the descent.** -/
lemma Descent.step {os : List Origin} {p : Panel} (d : Descent os p.tokens) (s : Step) :
    Descent (grow os s) (p.step s).tokens := by
  -- whether the control that a token comes from is there, the step and the origins see alike
  have there (i : Nat) : p.tokens[i]? = p.handles[i]?.map (·.token) := List.getElem?_map
  have within (i : Nat) : i < os.length ↔ (p.handles[i]?).isSome := by simp [← d.count]
  cases s with
  | create =>
      simp only [grow, Step.origin?, Option.toList_some, Panel.step, create, tokens_add]
      exact d.add (by simp [Origin.token?, tokens])
  | descend parent =>
      simp only [grow, Step.origin?, Panel.step, descend, within]
      cases here : p.handles[parent]? with
      | none => simpa using d
      | some h =>
          simp only [Option.isSome_some, if_true, Option.toList_some, tokens_add]
          exact d.add (by simp [Origin.token?, here, tokens])
  | share other =>
      simp only [grow, Step.origin?, Panel.step, share, within]
      cases here : p.handles[other]? with
      | none => simpa using d
      | some h =>
          simp only [Option.isSome_some, if_true, Option.toList_some, tokens_add]
          exact d.add (by simp [Origin.token?, there, here])
  | publish n t =>
      simpa [grow, Step.origin?, Panel.step, tokens_change n (Handle.shows_token t)] using d
  | drop n => simpa [grow, Step.origin?, Panel.step, tokens_change n Handle.dropped_token] using d
  | stop n => simpa [grow, Step.origin?, Panel.step, tokens_change n Handle.stopping_token] using d

/-- **The tokens of all controls come from where the steps say.** -/
theorem descent_after (steps : List Step) :
    Descent (origins steps) (empty.after steps).tokens := by
  induction steps using List.reverseRecOn with
  | nil => exact .empty
  | append_singleton steps s ih =>
      simpa only [origins, after, List.foldl_append, List.foldl_cons, List.foldl_nil] using
        Descent.step ih s

end Panel

end Connector
