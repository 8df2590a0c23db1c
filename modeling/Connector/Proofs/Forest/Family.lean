import Connector.Job.Forking
import Connector.Proofs.Scheduler.Queue
import Mathlib.Logic.Relation

/-!
# Families of jobs

Forking jobs make a forest: a job that was run has children to be taken, each of which is a job of
its own.  This file is about how the jobs of a forest hang together.  Their tokens are paths, and
the paths say the same as the parents do.

* `Stand`, `Stand.act` — what there is of a job, and what can be done with it.
* `Node` — a job of a forest, with its handle and the job it was forked from.
* `Family` — what holds of the tokens and parents of all jobs of a forest;
  `Family.set`, `Family.fork`, **`Family.act`** — doing something with one of them keeps it.
* `Above` — a job and its ancestors; **`Family.above_iff`** — they are those whose tokens are
  prefixes.
-/

namespace Connector

open Work

/-! ## One job -/

/-- **What there is of a job**: the job before its run, then its children still to come, and in the
end nothing but its handle. -/
inductive Stand where
  | waiting (job : ForkingJob)
  | forking (forks : Forks)
  | gone

/-- What can be done with a job. -/
inductive Verb where
  | run
  | next
  | outputs
  | drop

namespace Stand

/-- **Do something with a job.**  There may be a child.  What cannot be done with a job leaves it as
it is; a job that has failed is gone. -/
def act : Verb → Stand → Work (Stand × Option ForkingJob)
  | .run, .waiting job => do
    match ← settle job.run with
    | .ok forks => return (.forking forks, none)
    | .error _ => return (.gone, none)
  | .next, .forking forks => do
    let (child, forks) ← forks.next
    return (.forking forks, child)
  | .outputs, .forking forks => do
    discard forks.takeOutputs
    return (.gone, none)
  | .drop, .waiting _ => return (.gone, none)
  | .drop, .forking forks => do
    forks.drop
    return (.gone, none)
  | _, stand => return (stand, none)

/-- What there is of a job is stopped by a token. -/
def Of (t : Token) : Stand → Prop
  | .waiting job => job.token = t
  | .forking forks => forks.token = t
  | .gone => True

/-- No child with a number is still to come. -/
def Past (n : Nat) : Stand → Prop
  | .waiting _ => False
  | .forking forks => n ≤ forks.produced
  | .gone => True

end Stand

/-- **What becomes of a job** when something is done with it: it stays with its token, no number
comes again, and a child has a token of its own. -/
structure Stand.Turns (t : Token) (before : Stand) (x : Stand × Option ForkingJob) : Prop where
  token : x.1.Of t
  past (n : Nat) : before.Past n → x.1.Past n
  child (c : ForkingJob) : x.2 = some c →
    ∃ n, c.token = t.child n ∧ x.1.Past n ∧ ¬ before.Past n

lemma Stand.act_turns (verb : Verb) {t : Token} {stand : Stand} (h : stand.Of t) :
    Yields (stand.act verb) (Stand.Turns t stand) := by
  have same : Yields (pure (stand, none) : Work (Stand × Option ForkingJob)) (Turns t stand) :=
    Yields.pure ⟨h, fun _ => id, nofun⟩
  have vanished : Turns t stand (.gone, none) := ⟨trivial, fun _ _ => trivial, nofun⟩
  cases verb with
  | run =>
      cases stand with
      | waiting job =>
          refine job.run_yields.settle.bind fun result hr => ?_
          rcases result with e | forks
          · exact Yields.pure vanished
          · have token : forks.token = t := (hr forks rfl).2.trans h
            exact Yields.pure ⟨token, fun _ => False.elim, nofun⟩
      | forking forks => exact same
      | gone => exact same
  | next =>
      cases stand with
      | waiting job => exact same
      | forking forks =>
          refine forks.next_yields.bind fun x hx => ?_
          have token : x.2.token = t := hx.token.trans h
          rcases x with ⟨_ | child, g⟩
          · refine Yields.pure ⟨token, fun n hn => ?_, nofun⟩
            exact Nat.le_trans hn (Nat.le_of_eq (hx.kept rfl).symm)
          · obtain ⟨-, -, fresh, number⟩ := hx.child child rfl
            refine Yields.pure ⟨token, fun n hn => ?_, fun c hc => ?_⟩
            · exact Nat.le_trans hn (number ▸ Nat.le_succ _)
            · cases hc
              exact ⟨forks.produced + 1, by rw [fresh, h], Nat.le_of_eq number.symm,
                Nat.not_succ_le_self _⟩
      | gone => exact same
  | outputs =>
      cases stand with
      | forking forks => exact Yields.after fun _ => Yields.pure vanished
      | waiting job => exact same
      | gone => exact same
  | drop =>
      cases stand with
      | waiting job => exact Yields.pure vanished
      | forking forks => exact Yields.after fun _ => Yields.pure vanished
      | gone => exact same

/-! ## Many jobs -/

/-- **A job of a forest**, known by its place: the token of its handle, the job that it was forked
from, and what there is of it. -/
structure Node where
  token : Token
  parent : Option Nat
  stand : Stand

/-- The node of a child. -/
def Node.ofChild (parent : Nat) (job : ForkingJob) : Node := ⟨job.token, some parent, .waiting job⟩

/-- **A job that has gone on**: its handle and its parent are what they were. -/
structure Node.GoesOn (a b : Node) : Prop where
  token : b.token = a.token
  parent : b.parent = a.parent
  stand : a.stand.Of a.token → b.stand.Of b.token
  past (n : Nat) : a.stand.Past n → b.stand.Past n

lemma Node.GoesOn.refl (node : Node) : node.GoesOn node := ⟨rfl, rfl, id, fun _ => id⟩

/-- **A family**: roots have tokens of their own, everybody else has a token behind that of the
parent, with a number that does not come again, and no two have the same token. -/
structure Family (nodes : List Node) : Prop where
  root {i : Nat} {node : Node} : nodes[i]? = some node → node.parent = none →
    ∃ r, node.token = [r]
  forked {i p : Nat} {node : Node} : nodes[i]? = some node → node.parent = some p →
    p < i ∧ ∃ parent k, nodes[p]? = some parent ∧ node.token = parent.token.child k ∧
      parent.stand.Past k
  stand {i : Nat} {node : Node} : nodes[i]? = some node → node.stand.Of node.token
  distinct {i j : Nat} {a b : Node} : nodes[i]? = some a → nodes[j]? = some b →
    a.token = b.token → i = j

variable {nodes : List Node} {i j n : Nat} {node a b : Node}

namespace Family

lemma token_ne_nil (h : Family nodes) (hi : nodes[i]? = some node) : node.token ≠ [] := by
  rcases hp : node.parent with _ | p
  · obtain ⟨r, hr⟩ := h.root hi hp
    simp [hr]
  · obtain ⟨-, parent, k, -, token, -⟩ := h.forked hi hp
    simp [token, Token.child]

/-- A number that may still come has not been given to a child. -/
lemma fresh (h : Family nodes) (hn : nodes[n]? = some node) {k : Nat} (hk : ¬ node.stand.Past k)
    (hj : nodes[j]? = some b) : b.token ≠ node.token.child k := by
  intro token
  rcases hp : b.parent with _ | p
  · obtain ⟨r, hr⟩ := h.root hj hp
    have one : [r] = node.token ++ [k] := hr.symm.trans token
    have none : node.token = [] := by
      have lengths := congrArg List.length one
      simpa using lengths
    exact h.token_ne_nil hn none
  · obtain ⟨-, parent, k', hparent, token', past⟩ := h.forked hj hp
    have same : node.token ++ [k] = parent.token ++ [k'] := token.symm.trans token'
    obtain ⟨tokens, rfl⟩ := List.append_singleton_inj.1 same
    obtain rfl : n = p := h.distinct hn hparent tokens
    obtain rfl : node = parent := Option.some.inj (hn.symm.trans hparent)
    exact hk past

/-- **Jobs go on**, each at its place. -/
lemma goesOn (h : Family nodes) {later : List Node}
    (hl : ∀ i : Nat, Option.Rel Node.GoesOn nodes[i]? later[i]?) : Family later := by
  have before {i : Nat} {b : Node} (hb : later[i]? = some b) :
      ∃ a, nodes[i]? = some a ∧ a.GoesOn b := by
    have related := hl i
    rw [hb] at related
    generalize nodes[i]? = x at related
    cases related with
    | some hab => exact ⟨_, rfl, hab⟩
  have after {i : Nat} {a : Node} (ha : nodes[i]? = some a) :
      ∃ b, later[i]? = some b ∧ a.GoesOn b := by
    have related := hl i
    rw [ha] at related
    generalize later[i]? = y at related
    cases related with
    | some hab => exact ⟨_, rfl, hab⟩
  constructor
  case root =>
    intro i b hb none
    obtain ⟨a, ha, hab⟩ := before hb
    rw [hab.token]
    exact h.root ha (hab.parent ▸ none)
  case forked =>
    intro i p b hb parent
    obtain ⟨a, ha, hab⟩ := before hb
    obtain ⟨earlier, q, k, hq, token, past⟩ := h.forked ha (hab.parent ▸ parent)
    obtain ⟨q', hq', hqq⟩ := after hq
    exact ⟨earlier, q', k, hq', by rw [hab.token, hqq.token, token], hqq.past k past⟩
  case stand =>
    intro i b hb
    obtain ⟨a, ha, hab⟩ := before hb
    exact hab.stand (h.stand ha)
  case distinct =>
    intro i j b b' hb hb' token
    obtain ⟨a, ha, hab⟩ := before hb
    obtain ⟨a', ha', hab'⟩ := before hb'
    exact h.distinct ha ha' (by rw [← hab.token, ← hab'.token, token])

/-- One job goes on, and the others stay as they are. -/
lemma rel_set (hn : nodes[n]? = some a) (hab : a.GoesOn b) (i : Nat) :
    Option.Rel Node.GoesOn nodes[i]? (nodes.set n b)[i]? := by
  rw [List.getElem?_set]
  split_ifs with same bound
  · subst same
    rw [hn]
    exact .some hab
  · have inside := (List.getElem?_eq_some_iff.1 hn).1
    exact absurd inside bound
  · rcases nodes[i]? with _ | other
    · exact .none
    · exact .some (.refl other)

/-- **A child comes last**, with a number that has not been given before. -/
lemma fork (h : Family nodes) (hn : nodes[n]? = some node) {k : Nat} (hk : node.stand.Past k)
    {child : ForkingJob} (token : child.token = node.token.child k)
    (new : ∀ (i : Nat) (b : Node), nodes[i]? = some b → b.token ≠ child.token) :
    Family (nodes ++ [.ofChild n child]) := by
  have bound : n < nodes.length := (List.getElem?_eq_some_iff.1 hn).1
  have places {i : Nat} {b : Node} (hb : (nodes ++ [.ofChild n child])[i]? = some b) :
      nodes[i]? = some b ∨ (i = nodes.length ∧ b = .ofChild n child) := by
    rcases Nat.lt_or_ge i nodes.length with inside | behind
    · rw [List.getElem?_append_left inside] at hb
      exact .inl hb
    · rw [List.getElem?_append_right behind, List.getElem?_singleton] at hb
      split_ifs at hb with last
      cases hb
      exact .inr ⟨by omega, rfl⟩
  have old {i : Nat} {b : Node} (hb : nodes[i]? = some b) :
      (nodes ++ [.ofChild n child])[i]? = some b := by
    rw [List.getElem?_append_left (List.getElem?_eq_some_iff.1 hb).1]
    exact hb
  constructor
  case root =>
    intro i b hb none
    rcases places hb with hb | ⟨-, rfl⟩
    · exact h.root hb none
    · cases none
  case forked =>
    intro i p b hb parent
    rcases places hb with hb | ⟨rfl, rfl⟩
    · obtain ⟨earlier, q, k, hq, rest⟩ := h.forked hb parent
      exact ⟨earlier, q, k, old hq, rest⟩
    · cases parent
      exact ⟨bound, node, k, old hn, token, hk⟩
  case stand =>
    intro i b hb
    rcases places hb with hb | ⟨-, rfl⟩
    · exact h.stand hb
    · exact rfl
  case distinct =>
    intro i j b b' hb hb' same
    rcases places hb with hb | ⟨rfl, rfl⟩ <;> rcases places hb' with hb' | ⟨rfl, rfl⟩
    · exact h.distinct hb hb' same
    · exact absurd same (new i b hb)
    · exact absurd same.symm (new j b' hb')
    · rfl

/-- **Something is done with one job**, and there may be a child. -/
theorem act (h : Family nodes) (hn : nodes[n]? = some node) {x : Stand × Option ForkingJob}
    (hx : Stand.Turns node.token node.stand x) :
    Family (nodes.set n { node with stand := x.1 } ++ (x.2.map (Node.ofChild n)).toList) := by
  have on : node.GoesOn { node with stand := x.1 } := ⟨rfl, rfl, fun _ => hx.token, hx.past⟩
  have later := h.goesOn (rel_set hn on)
  rcases hc : x.2 with _ | child
  · simpa using later
  · obtain ⟨k, token, past, unused⟩ := hx.child child hc
    have bound : n < nodes.length := (List.getElem?_eq_some_iff.1 hn).1
    have here : (nodes.set n { node with stand := x.1 })[n]? = some { node with stand := x.1 } := by
      simp [bound]
    refine later.fork here past token fun i b hb => ?_
    -- the number is new among the jobs as they were, whose tokens are the same
    have related := rel_set hn on i
    rw [hb] at related
    generalize ha : nodes[i]? = y at related
    cases related with
    | some hab =>
        rw [hab.token, token]
        exact h.fresh hn unused ha

/-! ## Ancestors -/

end Family

/-- A job was forked from another one. -/
def Forked (nodes : List Node) (parent child : Nat) : Prop :=
  ∃ node, nodes[child]? = some node ∧ node.parent = some parent

/-- **A job is above another one**: it is that job, or one of its ancestors. -/
abbrev Above (nodes : List Node) : Nat → Nat → Prop := Relation.ReflTransGen (Forked nodes)

namespace Family

lemma prefix_of_above (h : Family nodes) {ancestor : Nat} {x y : Node}
    (hx : nodes[ancestor]? = some x) (hn : nodes[n]? = some y) (ha : Above nodes ancestor n) :
    x.token <+: y.token := by
  induction ha generalizing y with
  | refl =>
      obtain rfl : x = y := Option.some.inj (hx.symm.trans hn)
      exact List.prefix_refl _
  | @tail p n _ hf ih =>
      obtain ⟨node, hnode, parent⟩ := hf
      obtain rfl : node = y := Option.some.inj (hnode.symm.trans hn)
      obtain ⟨-, q, k, hq, token, -⟩ := h.forked hn parent
      rw [token]
      exact (ih hq).trans (List.prefix_append _ _)

/-- By induction on the place, since parents come before their children. -/
lemma above_of_prefix (h : Family nodes) {ancestor : Nat} {x y : Node}
    (hx : nodes[ancestor]? = some x) (hn : nodes[n]? = some y) (hp : x.token <+: y.token) :
    Above nodes ancestor n := by
  induction n using Nat.strongRecOn generalizing y with
  | ind n ih =>
      have here (same : x.token = y.token) : Above nodes ancestor n :=
        h.distinct hx hn same ▸ Relation.ReflTransGen.refl
      rcases parent : y.parent with _ | p
      · obtain ⟨r, hr⟩ := h.root hn parent
        rw [hr] at hp here
        have single : x.token <+: [] ++ [r] := hp
        rcases List.prefix_concat_iff.1 single with same | none
        · exact here same
        · exact absurd (List.prefix_nil.1 none) (h.token_ne_nil hx)
      · obtain ⟨earlier, q, k, hq, token, -⟩ := h.forked hn parent
        rw [token, Token.child] at hp here
        rcases List.prefix_concat_iff.1 hp with same | within
        · exact here same
        · exact (ih p earlier hq within).tail ⟨y, hn, parent⟩

/-- **A job is above another one exactly if its token is a prefix of the other's.** -/
theorem above_iff (h : Family nodes) {ancestor : Nat} {x y : Node}
    (hx : nodes[ancestor]? = some x) (hn : nodes[n]? = some y) :
    Above nodes ancestor n ↔ x.token <+: y.token :=
  ⟨h.prefix_of_above hx hn, h.above_of_prefix hx hn⟩

end Family

/-! ## The first jobs -/

/-- The node of a root, which has a token of its own. -/
def Node.ofRoot (i : Nat) (job : ForkingJob) : Node := ⟨[i], none, .waiting { job with token := [i] }⟩

/-- Roots by themselves are a family. -/
lemma Family.roots (jobs : List ForkingJob) : Family (jobs.mapIdx Node.ofRoot) := by
  have place {i : Nat} {node : Node} (h : (jobs.mapIdx Node.ofRoot)[i]? = some node) :
      ∃ job, node = .ofRoot i job := by
    rw [List.getElem?_mapIdx] at h
    obtain ⟨job, -, rfl⟩ := Option.map_eq_some_iff.1 h
    exact ⟨job, rfl⟩
  constructor
  case root =>
    intro i node h _
    obtain ⟨job, rfl⟩ := place h
    exact ⟨i, rfl⟩
  case forked =>
    intro i p node h parent
    obtain ⟨job, rfl⟩ := place h
    cases parent
  case stand =>
    intro i node h
    obtain ⟨job, rfl⟩ := place h
    rfl
  case distinct =>
    intro i j a b ha hb same
    obtain ⟨job, rfl⟩ := place ha
    obtain ⟨job', rfl⟩ := place hb
    exact List.singleton_inj.1 same

end Connector
