import Connector.Proofs.Control.Descent

/-!
# What handles tell

A handle shows what its control did and whether a stop reaches it, and waiting with it ends when the
control is done.  All of it is said by the steps that were taken, in whatever order controls were
made, shared, dropped and stopped.

* `life`, `lastShown`, `Gone` — what steps say of one control.
* `Told` — a handle that knows what the steps say; `told_after` — every handle does.
* `isStopRequested_iff` — which stops reach a handle.
* `Final` — a terminal state stays; `await_eq` — then a wait ends with what its last look sees.
* **`handles_report`** — states, stops and waits, after any steps and whatever is done meanwhile.
-/

namespace Connector

namespace Panel

variable {n : Nat} {os : List Origin} {p : Panel} {h : Handle}

/-! ## What steps say of a control -/

/-- The steps since a control was made, when some were made before. -/
def lifeFrom (n : Nat) : List Origin → List Step → List Step
  | _, [] => []
  | os, s :: later => if n < os.length then s :: later else lifeFrom n (grow os s) later

/-- **The steps since a control was made.** -/
def life (n : Nat) (steps : List Step) : List Step := lifeFrom n [] steps

/-- The last state that a control shows before it is dropped. -/
def lastSet (n : Nat) : JobState → List Step → JobState
  | last, [] => last
  | last, .publish m s :: later => lastSet n (if m = n then s else last) later
  | last, .drop m :: later => if m = n then last else lastSet n last later
  | last, _ :: later => lastSet n last later

/-- **The last state that a control has shown.** -/
def lastShown (n : Nat) (steps : List Step) : JobState := lastSet n .idle (life n steps)

/-- **The control was dropped.** -/
def Gone (n : Nat) (steps : List Step) : Prop := .drop n ∈ life n steps

instance (steps : List Step) : Decidable (Gone n steps) := inferInstanceAs (Decidable (_ ∈ _))

/-- **The control is done**: it is in a terminal state, or it was dropped. -/
def Ended (n : Nat) (steps : List Step) : Prop := (lastShown n steps).isTerminal ∨ Gone n steps

instance (steps : List Step) : Decidable (Ended n steps) := inferInstanceAs (Decidable (_ ∨ _))

/-- A control that is there lives through all steps. -/
lemma lifeFrom_of_lt (there : n < os.length) (steps : List Step) :
    lifeFrom n os steps = steps := by
  cases steps with
  | nil => rfl
  | cons s later => rw [lifeFrom, if_pos there]

lemma length_grow (os : List Origin) (s : Step) : os.length ≤ (grow os s).length := by
  simp [grow]

lemma length_foldl_grow (os : List Origin) (steps : List Step) :
    os.length ≤ (steps.foldl grow os).length := by
  induction steps generalizing os with
  | nil => exact le_rfl
  | cons s later ih => exact (length_grow os s).trans (ih _)

/-- Something is done with a control only after it was made. -/
lemma lt_of_mem_lifeFrom {s : Step} {steps : List Step} (h : s ∈ lifeFrom n os steps) :
    n < (steps.foldl grow os).length := by
  induction steps generalizing os with
  | nil => cases h
  | cons first later ih =>
      rw [lifeFrom] at h
      split at h
      · case isTrue there => exact there.trans_le (length_foldl_grow os (first :: later))
      · exact ih h

/-- A control that is there lives on through what comes later. -/
lemma lifeFrom_append {steps : List Step} (there : n < (steps.foldl grow os).length)
    (later : List Step) : lifeFrom n os (steps ++ later) = lifeFrom n os steps ++ later := by
  induction steps generalizing os with
  | nil => simpa [lifeFrom] using lifeFrom_of_lt there later
  | cons s steps ih =>
      rw [List.cons_append, lifeFrom, lifeFrom]
      split
      · rfl
      · exact ih there

/-- A control that is there lives on. -/
lemma life_append {steps : List Step} (there : n < (origins steps).length) (later : List Step) :
    life n (steps ++ later) = life n steps ++ later := lifeFrom_append there later

/-- A control that was made stays made. -/
lemma lt_origins_append {steps : List Step} (there : n < (origins steps).length)
    (later : List Step) : n < (origins (steps ++ later)).length := by
  rw [origins, List.foldl_append]
  exact there.trans_le (length_foldl_grow _ later)

/-- What a control shows last is shown later, unless it was dropped before. -/
lemma lastSet_append (last : JobState) (steps later : List Step) :
    lastSet n last (steps ++ later) =
      if .drop n ∈ steps then lastSet n last steps else lastSet n (lastSet n last steps) later := by
  induction steps generalizing last with
  | nil => rfl
  | cons s steps ih =>
      cases s with
      | drop m =>
          by_cases own : m = n
          · simp [lastSet, own]
          · simp [lastSet, own, Ne.symm own, ih]
      | _ => simp [lastSet, ih]

/-- A dropped control stays so. -/
lemma Gone.append {steps : List Step} (there : n < (origins steps).length) (gone : Gone n steps)
    (later : List Step) : Gone n (steps ++ later) := by
  rw [Gone, life_append there]
  exact List.mem_append_left _ gone

/-- A dropped control shows nothing more. -/
lemma lastShown_append {steps : List Step} (there : n < (origins steps).length)
    (gone : Gone n steps) (later : List Step) :
    lastShown n (steps ++ later) = lastShown n steps := by
  have dropped : .drop n ∈ life n steps := gone
  rw [lastShown, life_append there, lastSet_append, if_pos dropped, lastShown]

/-! ## Handles -/

lemma after_append (p : Panel) (steps later : List Step) :
    p.after (steps ++ later) = (p.after steps).after later := List.foldl_append

/-- What a step does to the handle at a place. -/
def Step.on (n : Nat) (h : Handle) : Step → Handle
  | .publish m s => if m = n then h.shows s else h
  | .drop m => if m = n then h.dropped else h
  | .stop m => if m = n then h.stopping else h
  | _ => h

/-- One control more leaves the handles of the others alone. -/
lemma getElem?_add (t : Token) (there : p.handles[n]? = some h) :
    (p.add t).handles[n]? = some h := by
  obtain ⟨before, -⟩ := List.getElem?_eq_some_iff.mp there
  rw [add, List.getElem?_append_left before, there]

/-- A change to one handle leaves the others alone. -/
lemma getElem?_change (m : Nat) (f : Handle → Handle) (there : p.handles[n]? = some h) :
    (p.change m f).handles[n]? = some (if m = n then f h else h) := by
  rw [change, List.getElem?_modify, there]
  split <;> rfl

/-- **What a step does** to the handle at a place. -/
lemma getElem?_step (there : p.handles[n]? = some h) (s : Step) :
    (p.step s).handles[n]? = some (s.on n h) := by
  cases s with
  | create => exact getElem?_add _ there
  | descend parent =>
      rw [step, descend]
      split
      · exact there
      · exact getElem?_add _ there
  | share other =>
      rw [step, share]
      split
      · exact there
      · exact getElem?_add _ there
  | publish m s => exact getElem?_change m _ there
  | drop m => exact getElem?_change m _ there
  | stop m => exact getElem?_change m _ there

/-- **What steps do** to the handle at a place. -/
lemma getElem?_after (there : p.handles[n]? = some h) (steps : List Step) :
    (p.after steps).handles[n]? = some (steps.foldl (Step.on n) h) := by
  induction steps generalizing p h with
  | nil => exact there
  | cons s later ih => exact ih (getElem?_step there s)

/-- The handle of a control that a step makes. -/
lemma getElem?_made (d : Descent os p.tokens) (s : Step) (new : ¬ n < os.length)
    (made : n < (grow os s).length) : ∃ t, (p.step s).handles[n]? = some (.fresh t) := by
  have last (t : Token) : (p.add t).handles[p.handles.length]? = some (.fresh t) := by simp [add]
  have within (i : Nat) : i < os.length ↔ (p.handles[i]?).isSome := by simp [← d.count]
  have place (o : Option Origin) (h : n < (os ++ o.toList).length) : n = p.handles.length := by
    cases o <;> simp [d.count] at h ⊢ <;> omega
  obtain rfl : n = p.handles.length := place _ made
  cases s with
  | create => exact ⟨_, last _⟩
  | descend parent =>
      rw [step, descend]
      cases there : p.handles[parent]? with
      | none => simp [grow, Step.origin?, within, there, d.count] at made
      | some h => exact ⟨_, last _⟩
  | share other =>
      rw [step, share]
      cases there : p.handles[other]? with
      | none => simp [grow, Step.origin?, within, there, d.count] at made
      | some h => exact ⟨_, last _⟩
  | publish | drop | stop => simp [grow, Step.origin?, d.count] at made

/-- A handle that is made on the way is fresh and then knows the steps of its life. -/
lemma getElem?_lifeFrom (d : Descent os p.tokens) (new : ¬ n < os.length) {steps : List Step}
    (made : n < (steps.foldl grow os).length) :
    ∃ t, (p.after steps).handles[n]? =
      some ((lifeFrom n os steps).foldl (Step.on n) (.fresh t)) := by
  induction steps generalizing os p with
  | nil => exact absurd made new
  | cons s later ih =>
      rw [lifeFrom, if_neg new]
      by_cases now : n < (grow os s).length
      · obtain ⟨t, there⟩ := getElem?_made d s new now
        rw [lifeFrom_of_lt now]
        exact ⟨t, getElem?_after there later⟩
      · exact ih (d.step s) now made

/-- What a handle knows after some steps. -/
def told (n : Nat) (h : Handle) (steps : List Step) : Handle where
  token := h.token
  state := if h.alive then lastSet n h.state steps else h.state
  alive := h.alive && decide (.drop n ∉ steps)
  asked := h.asked + steps.count (.stop n)

/-- A handle knows of steps what is told of them. -/
lemma foldl_on (h : Handle) (steps : List Step) : steps.foldl (Step.on n) h = told n h steps := by
  induction steps generalizing h with
  | nil => simp [told, lastSet]
  | cons s later ih =>
      rw [List.foldl_cons, ih]
      cases s with
      | create | descend | share =>
          change told n h later = _
          simp [told, lastSet]
      | publish m s =>
          by_cases own : m = n <;> cases alive : h.alive <;>
            simp [told, Step.on, lastSet, Handle.shows, own, alive]
      | drop m =>
          by_cases own : m = n
          · simp [told, Step.on, lastSet, Handle.dropped, own]
          · simp [told, Step.on, lastSet, own, Ne.symm own]
      | stop m =>
          by_cases own : m = n
          · simp [told, Step.on, lastSet, Handle.stopping, own]; omega
          · simp [told, Step.on, lastSet, own]

/-- **Every handle knows what the steps say** of its control. -/
theorem told_after {steps : List Step} (there : n < (origins steps).length) :
    ∃ t, (empty.after steps).handles[n]? = some (told n (.fresh t) (life n steps)) := by
  obtain ⟨t, here⟩ := getElem?_lifeFrom (p := empty) .empty (Nat.not_lt_zero n) there
  exact ⟨t, by rw [here, foldl_on, life]⟩

/-- A handle that is there is that of a control that was made. -/
lemma lt_origins {steps : List Step} (there : (empty.after steps).handles[n]? = some h) :
    n < (origins steps).length := by
  rw [← (descent_after steps).count]
  exact (List.getElem?_eq_some_iff.mp there).1

/-! ## Stops -/

/-- Whether a stop reaches the handle at a place. -/
def flag? (n : Nat) (p : Panel) : Option Bool := p.handles[n]?.map p.isStopRequested

/-- The state that the handle at a place shows. -/
def state? (n : Nat) (p : Panel) : Option JobState := p.handles[n]?.map (·.state)

/-- **A stop of a control**: one that was asked for with a handle of its token or of an ancestor. -/
def Stopped (n : Nat) (steps : List Step) : Prop :=
  ∃ a, .stop a ∈ life a steps ∧ Origin.Covers (origins steps) a n

/-- A handle is reached by a stop that was asked for at a token which begins its own. -/
lemma isStopRequested_eq :
    p.isStopRequested h = true ↔ ∃ (a : Nat) (asking : Handle),
      p.handles[a]? = some asking ∧ 0 < asking.asked ∧ asking.token <+: h.token := by
  constructor
  · intro reached
    obtain ⟨t, among, above⟩ := List.any_eq_true.mp reached
    obtain ⟨asking, there, rfl⟩ := List.mem_map.mp among
    obtain ⟨there, asked⟩ := List.mem_filter.mp there
    obtain ⟨a, here⟩ := List.mem_iff_getElem?.mp there
    exact ⟨a, asking, here, of_decide_eq_true asked, List.isPrefixOf_iff_prefix.mp above⟩
  · rintro ⟨a, asking, here, asked, above⟩
    have there : asking ∈ p.handles := List.mem_iff_getElem?.mpr ⟨a, here⟩
    refine List.any_eq_true.mpr ⟨asking.token, ?_, List.isPrefixOf_iff_prefix.mpr above⟩
    exact List.mem_map_of_mem (List.mem_filter.mpr ⟨there, decide_eq_true asked⟩)

/-- **Which stops reach a handle**, said by where the tokens come from. -/
theorem isStopRequested_iff {steps : List Step}
    (there : (empty.after steps).handles[n]? = some h) :
    (empty.after steps).isStopRequested h = true ↔ Stopped n steps := by
  have descent := descent_after steps
  have token {i : Nat} {g : Handle} (h : (empty.after steps).handles[i]? = some g) :
      (empty.after steps).tokens[i]? = some g.token := by
    rw [tokens, List.getElem?_map, h, Option.map_some]
  rw [isStopRequested_eq]
  constructor
  · rintro ⟨a, asking, here, asked, above⟩
    obtain ⟨t, knows⟩ := told_after (lt_origins here)
    obtain rfl := Option.some.inj (here.symm.trans knows)
    refine ⟨a, ?_, (descent.covers_iff (token here) (token there)).mp above⟩
    simpa [told, Handle.fresh, List.count_pos_iff] using asked
  · rintro ⟨a, asked, covers⟩
    obtain ⟨t, knows⟩ := told_after (lt_of_mem_lifeFrom asked)
    refine ⟨a, _, knows, ?_, (descent.covers_iff (token knows) (token there)).mpr covers⟩
    simpa [told, Handle.fresh, List.count_pos_iff] using asked

/-! ## Waits -/

/-- **Terminal states are final**: once one is shown, no other state is. -/
def Final (n : Nat) (steps : List Step) : Prop :=
  ∀ before, before <+: steps → (lastShown n before).isTerminal →
    lastShown n steps = lastShown n before

/-- What is done in some moments. -/
def taken (moments : List Moment) : List Step := moments.filterMap Moment.step?

/-- To wait for a control that is done tells its last state. -/
lemma wait?_of_ended {steps : List Step} (there : n < (origins steps).length)
    (ended : Ended n steps) : (empty.after steps).wait? n = some (lastShown n steps) := by
  obtain ⟨t, knows⟩ := told_after there
  rw [wait?, knows]
  have settled : (lastSet n .idle (life n steps)).isTerminal ∨ .drop n ∈ life n steps := ended
  simp [told, Handle.fresh, Handle.wait?, settled, lastShown]

/-- To wait for one that is not done tells nothing yet. -/
lemma wait?_of_not_ended {steps : List Step} (there : n < (origins steps).length)
    (pending : ¬ Ended n steps) : (empty.after steps).wait? n = none := by
  obtain ⟨t, knows⟩ := told_after there
  rw [wait?, knows]
  have going : ¬ ((lastSet n .idle (life n steps)).isTerminal ∨ .drop n ∈ life n steps) := pending
  simp [told, Handle.fresh, Handle.wait?, going]

/-- What was seen of a control that is done is seen from then on. -/
lemma ended_append {steps later : List Step} (there : n < (origins steps).length)
    (final : Final n (steps ++ later)) (ended : Ended n steps) :
    Ended n (steps ++ later) ∧ lastShown n (steps ++ later) = lastShown n steps := by
  rcases ended with terminal | gone
  · have same := final steps (List.prefix_append _ _) terminal
    exact ⟨Or.inl (same ▸ terminal), same⟩
  · exact ⟨Or.inr (gone.append there later), lastShown_append there gone later⟩

/-- A wait whose end stays ends with what its last look sees. -/
lemma await_look {moments : List Moment}
    (stays : ∀ sofar s, sofar <+: taken moments → (p.after sofar).wait? n = some s →
      (p.after (taken moments)).wait? n = some s) :
    p.await n (moments ++ [.look]) = (p.after (taken moments)).wait? n := by
  induction moments generalizing p with
  | nil =>
      simp only [List.nil_append, await, taken, List.filterMap_nil, after, List.foldl_nil]
      split <;> simp [*]
  | cons m later ih =>
      cases m with
      | step s =>
          refine ih fun sofar t before ends => ?_
          exact stays (s :: sofar) t ((List.prefix_cons_inj s).mpr before) ends
      | look =>
          rw [List.cons_append, await]
          cases sees : p.wait? n with
          | none => exact ih stays
          | some s => exact (stays [] s List.nil_prefix sees).symm

/-- **Where terminal states are final, a wait ends with what its last look sees.** -/
theorem await_eq {steps : List Step} (moments : List Moment) (there : n < (origins steps).length)
    (final : Final n (steps ++ taken moments)) :
    (empty.after steps).await n (moments ++ [.look]) =
      (empty.after (steps ++ taken moments)).wait? n := by
  rw [after_append]
  refine await_look fun sofar s before sees => ?_
  obtain ⟨later, whole⟩ := before
  rw [← after_append] at sees ⊢
  rw [← whole, ← List.append_assoc] at final ⊢
  have made := lt_origins_append there sofar
  by_cases ended : Ended n (steps ++ sofar)
  · obtain ⟨still, same⟩ := ended_append made final ended
    rw [wait?_of_ended (lt_origins_append made later) still, same, ← sees,
      wait?_of_ended made ended]
  · rw [wait?_of_not_ended made ended] at sees
    cases sees

/-- A wait ends with the state of a control that is done. -/
lemma await_of_ended {steps sofar : List Step} (moments : List Moment)
    (there : n < (origins steps).length) (final : Final n (steps ++ taken moments))
    (before : sofar <+: taken moments) (ended : Ended n (steps ++ sofar)) :
    (empty.after steps).await n (moments ++ [.look]) = some (lastShown n (steps ++ sofar)) := by
  obtain ⟨later, whole⟩ := before
  rw [await_eq moments there final]
  rw [← whole, ← List.append_assoc] at final ⊢
  have made := lt_origins_append there sofar
  obtain ⟨still, same⟩ := ended_append made final ended
  rw [wait?_of_ended (lt_origins_append made later) still, same]

/-- A wait for a control that is not done does not end. -/
lemma await_of_not_ended {steps : List Step} (moments : List Moment)
    (there : n < (origins steps).length) (final : Final n (steps ++ taken moments))
    (pending : ¬ Ended n (steps ++ taken moments)) :
    (empty.after steps).await n (moments ++ [.look]) = none := by
  rw [await_eq moments there final, wait?_of_not_ended (lt_origins_append there _) pending]

/-- A blocking stop is a stop and then a wait, whose first look comes right after the stop. -/
lemma stopAnswer_blocking {steps : List Step} (meanwhile : List Moment) :
    (empty.after steps).stopAnswer n true meanwhile =
      ((empty.after (steps ++ [.stop n])).await n (.look :: meanwhile ++ [.look])).isSome := by
  rw [stopAnswer, Bool.not_true, Bool.false_or, after_append]
  rfl

/-- A blocking stop is answered with true just where the control is done at some time. -/
lemma stopAnswer_blocking_iff {steps : List Step} (meanwhile : List Moment)
    (there : n < (origins steps).length)
    (final : Final n (steps ++ .stop n :: taken meanwhile)) :
    (empty.after steps).stopAnswer n true meanwhile = true ↔
      ∃ sofar, sofar <+: taken meanwhile ∧ Ended n (steps ++ .stop n :: sofar) := by
  have made := lt_origins_append there [.stop n]
  rw [List.append_cons] at final
  rw [stopAnswer_blocking]
  constructor
  · intro answered
    refine ⟨taken meanwhile, List.prefix_rfl, ?_⟩
    rw [List.append_cons]
    by_contra pending
    rw [await_of_not_ended (.look :: meanwhile) made final pending] at answered
    cases answered
  · rintro ⟨sofar, before, ended⟩
    rw [List.append_cons] at ended
    rw [await_of_ended (.look :: meanwhile) made final before ended]
    rfl

/-! ## Reports -/

/-- A handle shows the last state that its control has shown. -/
lemma state?_after {steps : List Step} (there : n < (origins steps).length) :
    (empty.after steps).state? n = some (lastShown n steps) := by
  obtain ⟨t, knows⟩ := told_after there
  rw [state?, knows]
  rfl

/-- A handle says that it is stopped if a stop reaches it. -/
lemma flag?_after {steps : List Step} (there : n < (origins steps).length) :
    (empty.after steps).flag? n = some true ↔ Stopped n steps := by
  obtain ⟨t, knows⟩ := told_after there
  rw [flag?, knows, Option.map_some, Option.some.injEq]
  exact isStopRequested_iff knows

/-- A stop is a stop of the handle's own control for good. -/
lemma stopped_append_stop {steps : List Step} (there : n < (origins steps).length)
    (later : List Step) : Stopped n (steps ++ .stop n :: later) := by
  refine ⟨n, ?_, .self n⟩
  rw [life_append there]
  exact List.mem_append_right _ List.mem_cons_self

/-- **What a handle tells** after some steps, and what is answered to those who wait with it. -/
structure Reported (n : Nat) (steps : List Step) : Prop where
  /-- The last state shown is seen. -/
  state : (empty.after steps).state? n = some (lastShown n steps)
  /-- It stays when the control is gone. -/
  stays : Gone n steps → ∀ later,
    (empty.after (steps ++ later)).state? n = some (lastShown n steps)
  /-- The flag tells of stops with handles of the token or of an ancestor. -/
  flag : (empty.after steps).flag? n = some true ↔ Stopped n steps
  /-- A stop sets the flag for good. -/
  stopped : ∀ later, (empty.after (steps ++ .stop n :: later)).flag? n = some true
  /-- A stop that does not block is always answered with true. -/
  unblocked : ∀ meanwhile, (empty.after steps).stopAnswer n false meanwhile = true
  /-- A blocking stop is answered with true when the control is done meanwhile. -/
  blocked : ∀ meanwhile, Final n (steps ++ .stop n :: taken meanwhile) →
    ((empty.after steps).stopAnswer n true meanwhile = true ↔
      ∃ sofar, sofar <+: taken meanwhile ∧ Ended n (steps ++ .stop n :: sofar))
  /-- A wait ends with the state of a control that is done. -/
  waited : ∀ meanwhile sofar, Final n (steps ++ taken meanwhile) → sofar <+: taken meanwhile →
    Ended n (steps ++ sofar) →
      (empty.after steps).await n (meanwhile ++ [.look]) = some (lastShown n (steps ++ sofar))
  /-- It does not end before. -/
  waits : ∀ meanwhile, Final n (steps ++ taken meanwhile) → ¬ Ended n (steps ++ taken meanwhile) →
    (empty.after steps).await n (meanwhile ++ [.look]) = none

/-- **Handles report what was done**: states, stops and waits, after any steps and whatever is done
meanwhile. -/
theorem handles_report {n : Nat} (steps : List Step) (there : n < (origins steps).length) :
    Reported n steps where
  state := state?_after there
  stays gone later := by
    rw [state?_after (lt_origins_append there later), lastShown_append there gone]
  flag := flag?_after there
  stopped later := (flag?_after (lt_origins_append there _)).mpr (stopped_append_stop there later)
  unblocked _ := rfl
  blocked meanwhile final := stopAnswer_blocking_iff meanwhile there final
  waited meanwhile _ final before ended := await_of_ended meanwhile there final before ended
  waits meanwhile final pending := await_of_not_ended meanwhile there final pending

/-- Two controls with one token have a child each, and the child of one is stopped. -/
def cousins : List Step :=
  [.create, .descend 0, .share 1, .descend 2, .descend 1, .publish 4 .running, .stop 3, .drop 0]

theorem handles_report_cousins :
    Reported 4 cousins ∧ (empty.after cousins).flag? 4 = some false ∧
      (empty.after cousins).stopAnswer 4 true
        [.look, .step (.publish 4 .stopped), .step (.drop 4)] = true := by
  have report := handles_report cousins (n := 4) (by decide)
  refine ⟨report, by decide, (report.blocked _ fun before early => ?_).mpr
    ⟨[.publish 4 .stopped], by decide, by decide⟩⟩
  rw [← List.mem_inits] at early
  revert before
  decide

end Panel

/-! ## Names -/

namespace Controls

/-- **Controls that come about** by what is done by name. -/
inductive Reached : Controls → Prop where
  | empty : Reached empty
  | create (name : String) {c : Controls} (h : Reached c) : Reached (c.create name)
  | descend (name parent : String) {c : Controls} (h : Reached c) : Reached (c.descend name parent)
  | share (name other : String) {c : Controls} (h : Reached c) : Reached (c.share name other)
  | publish (name : String) (s : JobState) {c : Controls} (h : Reached c) :
      Reached (c.publish name s)
  | drop (name : String) {c : Controls} (h : Reached c) : Reached (c.drop name)
  | requestStop (name : String) {c : Controls} (h : Reached c) : Reached (c.requestStop name)

/-- What is done with the control that has a name is a step of the panel, or none. -/
lemma panel_act {f : Handle → Handle} {s : Nat → Panel.Step}
    (steps : ∀ n p, Panel.step p (s n) = p.change n f) (name : String) (c : Controls) :
    ∃ more, (c.act name f).panel = c.panel.after more := by
  rw [act]
  split
  · exact ⟨[], rfl⟩
  · case h_2 n _ => exact ⟨[s n], (steps n c.panel).symm⟩

/-- A control that takes a name is a step too, and so is the end of the one that had it. -/
lemma panel_install (name : String) (s : Panel.Step) (c : Controls) :
    ∃ more, (c.install name (Panel.step · s)).panel = c.panel.after more := by
  obtain ⟨more, h⟩ := panel_act (s := .drop) (fun _ _ => rfl) name
    ({ c with panel := c.panel.step s } : Controls)
  exact ⟨s :: more, h⟩

/-- **What is done by name is done in steps**, so that all that handles tell after steps they tell
of controls with names. -/
theorem Reached.steps {c : Controls} (h : Reached c) :
    ∃ steps, c.panel = Panel.empty.after steps := by
  have on {c d : Controls} (reached : ∃ steps, c.panel = Panel.empty.after steps)
      (h : ∃ more, d.panel = c.panel.after more) : ∃ steps, d.panel = Panel.empty.after steps := by
    obtain ⟨steps, before⟩ := reached
    obtain ⟨more, later⟩ := h
    exact ⟨steps ++ more, by rw [later, before, Panel.after_append]⟩
  induction h with
  | empty => exact ⟨[], rfl⟩
  | create name _ ih => exact on ih (panel_install name .create _)
  | descend name parent _ ih =>
      refine on ih ?_
      rw [Controls.descend]
      split
      · exact panel_install name .create _
      · exact panel_install name (.descend _) _
  | share name other _ ih =>
      refine on ih ?_
      rw [Controls.share]
      split
      · exact panel_install name .create _
      · exact panel_install name (.share _) _
  | publish name s _ ih => exact on ih (panel_act (s := (.publish · s)) (fun _ _ => rfl) name _)
  | drop name _ ih => exact on ih (panel_act (s := .drop) (fun _ _ => rfl) name _)
  | requestStop name _ ih => exact on ih (panel_act (s := .stop) (fun _ _ => rfl) name _)

end Controls

end Connector
