import Connector.World
import Mathlib.Tactic.Common

/-!
# Reasoning about steps in the world

A step is a function on the world, and everything it can do is one of a few things: tell, show,
print, look for a stop, fail.  This file has what those do, and two ways to put what is known of
steps together.

* `Work.Leaves` — what a step leaves in the logs, whatever world it runs in.  The logs only grow, so
  what two steps leave one after the other is what the first leaves and then what the second does.
* `Work.Tandem` — two steps that run in related worlds, come to related results and leave related
  worlds.  An error is only related to itself.
* `Work.Gives` — what a step comes to where nobody asks for a stop.
* `Work.Yields` — what holds of every value that a step comes to.
* `Work.FailsBy` — what holds of every error that a step fails with.
-/

namespace Connector

namespace Work

variable {α β γ δ : Type}

/-! ## What single steps do -/

@[simp] lemma pure_apply (a : α) (w : World) : (pure a : Work α) w = (.ok a, w) := rfl

@[simp] lemma get_apply (w : World) : (get : Work World) w = (.ok w, w) := rfl

@[simp] lemma modify_apply (f : World → World) (w : World) :
    (modify f : Work Unit) w = (.ok (), f w) := rfl

@[simp] lemma fail_apply (e : RunError) (w : World) :
    (fail e : Work α) w = (.error (.failed e), w) := rfl

@[simp] lemma throw_apply (h : Halt) (w : World) : (throw h : Work α) w = (.error h, w) := rfl

/-- A computation that succeeded is a step that does nothing but give its value. -/
@[simp] lemma attempt_ok (a : α) : attempt (.ok a) = pure a := rfl

/-- A computation that failed is a step that fails with its error. -/
@[simp] lemma attempt_error (e : RunError) : attempt (.error e : Except RunError α) = fail e := rfl

/-- To tell an event puts it at the end of the log. -/
@[simp] lemma emit_apply (e : Event) (w : World) : emit e w = (.ok (), w.tell e) := rfl

@[simp] lemma publish_apply (t : Token) (s : JobState) (w : World) :
    publish t s w = (.ok (), w.display t s) := rfl

@[simp] lemma say_apply (s : String) (w : World) : say s w = (.ok (), w.print s) := rfl

/-- A look for a stop hears first what has been asked for meanwhile. -/
@[simp] lemma checkStop_apply (t : Token) (w : World) :
    checkStop t w = (.ok (w.look.isStopRequested t), w.look) := rfl

/-- The second step runs where the first one has left the world, unless the first one halts. -/
lemma bind_apply (x : Work α) (f : α → Work β) (w : World) :
    (x >>= f) w = match x w with
      | (.ok a, w') => f a w'
      | (.error h, w') => (.error h, w') := by
  show ExceptT.bindCont f (x w).1 (x w).2 = _
  rcases x w with ⟨_ | _, w'⟩ <;> rfl

/-- After a step that comes to a value, the next one starts in the world that the first left. -/
lemma bind_ok {x : Work α} {w w' : World} {a : α} (h : x w = (.ok a, w')) (f : α → Work β) :
    (x >>= f) w = f a w' := by
  rw [bind_apply, h]

/-- After a step that halts, nothing more is done. -/
lemma bind_error {x : Work α} {w w' : World} {h : Halt} (hx : x w = (.error h, w'))
    (f : α → Work β) : (x >>= f) w = (.error h, w') := by
  rw [bind_apply, hx]

/-- A function on the value of a step leaves its world alone. -/
lemma map_ok {x : Work α} {w w' : World} {a : α} (h : x w = (.ok a, w')) (f : α → β) :
    (f <$> x) w = (.ok (f a), w') := by
  rw [map_eq_pure_bind, bind_ok h]
  rfl

/-- A step that halts does so whatever would be made of its value. -/
lemma map_error {x : Work α} {w w' : World} {h : Halt} (hx : x w = (.error h, w'))
    (f : α → β) : (f <$> x) w = (.error h, w') := by
  rw [map_eq_pure_bind, bind_error hx]

/-- Both steps of a result have come to one. -/
lemma exists_of_bind_apply {x : Work α} {f : α → Work β} {w u : World} {b : β}
    (h : (x >>= f) w = (.ok b, u)) : ∃ a w', x w = (.ok a, w') ∧ f a w' = (.ok b, u) := by
  rw [bind_apply] at h
  rcases hx : x w with ⟨e | a, w'⟩ <;> rw [hx] at h
  · cases h
  · exact ⟨a, w', rfl, h⟩

/-- A computation that is done as a step succeeds in the world that it started in. -/
lemma attempt_eq_ok {r : Except RunError α} {w u : World} {a : α}
    (h : attempt r w = (.ok a, u)) : r = .ok a ∧ u = w := by
  cases r <;> cases h
  exact ⟨rfl, rfl⟩

end Work

/-! ## What is left in the logs -/

/-- **What a step leaves behind**: the events told, the requests sent and the states shown. -/
structure Trail where
  events : List Event := []
  sent : List Http.Request := []
  states : List (Token × JobState) := []

namespace Trail

instance : Append Trail :=
  ⟨fun t u => ⟨t.events ++ u.events, t.sent ++ u.sent, t.states ++ u.states⟩⟩

@[simp] lemma mk_append (e e' : List Event) (s s' : List Http.Request)
    (st st' : List (Token × JobState)) :
    (⟨e, s, st⟩ ++ ⟨e', s', st'⟩ : Trail) = ⟨e ++ e', s ++ s', st ++ st'⟩ := rfl

@[simp] lemma append_events (t u : Trail) : (t ++ u).events = t.events ++ u.events := rfl

@[simp] lemma append_sent (t u : Trail) : (t ++ u).sent = t.sent ++ u.sent := rfl

@[simp] lemma append_states (t u : Trail) : (t ++ u).states = t.states ++ u.states := rfl

/-- Trails with the same three logs are the same. -/
@[ext] lemma ext {t u : Trail} (he : t.events = u.events) (hs : t.sent = u.sent)
    (hst : t.states = u.states) : t = u := by
  cases t; cases u; simp_all

/-- The trail of a step that leaves nothing. -/
def empty : Trail := {}

@[simp] lemma append_empty (t : Trail) : t ++ empty = t := by ext1 <;> simp [empty]

@[simp] lemma empty_append (t : Trail) : empty ++ t = t := rfl

lemma append_assoc (t u v : Trail) : t ++ u ++ v = t ++ (u ++ v) := by ext1 <;> simp

/-- What comes behind one and the same trail is settled by the whole. -/
lemma append_left_cancel {t u v : Trail} (h : t ++ u = t ++ v) : u = v :=
  ext (List.append_cancel_left (congrArg events h)) (List.append_cancel_left (congrArg sent h))
    (List.append_cancel_left (congrArg states h))

end Trail

/-- The logs of a world. -/
def World.trail (w : World) : Trail := ⟨w.events, w.sent, w.states⟩

namespace World

@[simp] lemma trail_tell (e : Event) (w : World) :
    (w.tell e).trail = w.trail ++ { events := [e] } := by ext1 <;> simp [trail, tell]

@[simp] lemma trail_display (t : Token) (s : JobState) (w : World) :
    (w.display t s).trail = w.trail ++ { states := [(t, s)] } := by ext1 <;> simp [trail, display]

@[simp] lemma trail_print (s : String) (w : World) : (w.print s).trail = w.trail := rfl

@[simp] lemma trail_keep (s : Store) (w : World) : (w.keep s).trail = w.trail := rfl

@[simp] lemma trail_look (w : World) : w.look.trail = w.trail := rfl

/-- To pass a stop on leaves nothing in the logs. -/
@[simp] lemma trail_passOn (w : World) : w.passOn.trail = w.trail := by
  unfold passOn
  split
  · split <;> rfl
  · rfl

/-- To ring the signal leaves nothing in the logs. -/
@[simp] lemma trail_ring (w : World) : w.ring.trail = w.trail := by
  unfold ring
  split
  · split <;> rfl
  · rfl

/-- An exchange leaves the request that was sent. -/
@[simp] lemma trail_exchange (r : Http.Request) (w : World) :
    (w.exchange r).trail = w.trail ++ { sent := [r] } := by
  show (arrive r w).trail = _
  simp only [arrive, trail_passOn, trail_ring]
  ext1 <;> simp [count, trail]

end World

namespace Work

variable {α β γ δ : Type}

/-- **What a step leaves in the logs**, as a condition on its result and its trail. -/
def Leaves (x : Work α) (Q : Except Halt α → Trail → Prop) : Prop :=
  ∀ w, ∃ t, (x w).2.trail = w.trail ++ t ∧ Q (x w).1 t

namespace Leaves

/-- What a step leaves may be said with a weaker condition. -/
lemma mono {x : Work α} {P Q : Except Halt α → Trail → Prop} (hx : x.Leaves P)
    (h : ∀ r t, P r t → Q r t) : x.Leaves Q := by
  intro w
  obtain ⟨t, ht, hp⟩ := hx w
  exact ⟨t, ht, h _ _ hp⟩

/-- The trail of a run is one, so all that is known of it may be put together. -/
protected lemma and {x : Work α} {P Q : Except Halt α → Trail → Prop} (hp : x.Leaves P)
    (hq : x.Leaves Q) : x.Leaves fun r t => P r t ∧ Q r t := by
  intro w
  obtain ⟨t, ht, hpt⟩ := hp w
  obtain ⟨u, hu, hqu⟩ := hq w
  obtain rfl : t = u := Trail.append_left_cancel (ht.symm.trans hu)
  exact ⟨t, ht, hpt, hqu⟩

protected lemma pure {a : α} {Q : Except Halt α → Trail → Prop} (h : Q (.ok a) .empty) :
    (pure a : Work α).Leaves Q :=
  fun _ => ⟨.empty, (Trail.append_empty _).symm, h⟩

protected lemma throw {h : Halt} {Q : Except Halt α → Trail → Prop} (hq : Q (.error h) .empty) :
    (throw h : Work α).Leaves Q :=
  fun _ => ⟨.empty, (Trail.append_empty _).symm, hq⟩

protected lemma fail {e : RunError} {Q : Except Halt α → Trail → Prop}
    (hq : Q (.error (.failed e)) .empty) : (fail e : Work α).Leaves Q :=
  Leaves.throw hq

/-- What the first of two steps has to leave, for both together to leave what `Q` asks: where it
comes to a value the trails are joined, and where it halts its own trail is all. -/
def Then (f : α → Work β) (Q : Except Halt β → Trail → Prop) : Except Halt α → Trail → Prop
  | .ok a, t => (f a).Leaves fun r u => Q r (t ++ u)
  | .error h, t => Q (.error h) t

lemma Then.ok {f : α → Work β} {Q : Except Halt β → Trail → Prop} {a : α} {t : Trail}
    (h : (f a).Leaves fun r u => Q r (t ++ u)) : Then f Q (.ok a) t := h

lemma Then.error {f : α → Work β} {Q : Except Halt β → Trail → Prop} {h : Halt} {t : Trail}
    (hq : Q (.error h) t) : Then f Q (.error h) t := hq

/-- **One step after the other.** -/
protected lemma bind {x : Work α} {f : α → Work β} {Q : Except Halt β → Trail → Prop}
    (hx : x.Leaves (Then f Q)) : (x >>= f).Leaves Q := by
  intro w
  obtain ⟨t, ht, hp⟩ := hx w
  rcases hw : x w with ⟨h | a, w'⟩
  · rw [bind_error hw]
    rw [hw] at ht hp
    exact ⟨t, ht, hp⟩
  · rw [bind_ok hw]
    rw [hw] at ht hp
    obtain ⟨u, hu, hq⟩ := hp w'
    exact ⟨t ++ u, by rw [hu, ht, Trail.append_assoc], hq⟩

/-! Rules for steps that come first: the rest of the work adds to what they leave. -/

section First

variable {β : Type} {Q : Except Halt β → Trail → Prop}

/-- To read the world leaves nothing, and what follows is asked of every world. -/
lemma get_bind {f : World → Work β} (h : ∀ w, (f w).Leaves Q) : (get >>= f).Leaves Q :=
  fun w => h w w

/-- A step that only changes the world leaves what it puts into the logs. -/
lemma modify_bind {m : World → World} {t : Trail} (hm : ∀ w, (m w).trail = w.trail ++ t)
    {f : Unit → Work β} (h : (f ()).Leaves fun r u => Q r (t ++ u)) :
    (modify m >>= f).Leaves Q := by
  intro w
  obtain ⟨u, hu, hq⟩ := h (m w)
  exact ⟨t ++ u, by rw [bind_ok (modify_apply m w), hu, hm, Trail.append_assoc], hq⟩

/-- An event that is told comes before what the rest leaves. -/
lemma emit_bind {e : Event} {f : Unit → Work β}
    (h : (f ()).Leaves fun r u => Q r ({ events := [e] } ++ u)) : (emit e >>= f).Leaves Q :=
  modify_bind (World.trail_tell e) h

/-- A state that is shown comes before what the rest leaves. -/
lemma publish_bind {t : Token} {s : JobState} {f : Unit → Work β}
    (h : (f ()).Leaves fun r u => Q r ({ states := [(t, s)] } ++ u)) :
    (publish t s >>= f).Leaves Q :=
  modify_bind (World.trail_display t s) h

/-- What is printed is in none of the logs of a trail. -/
lemma say_bind {s : String} {f : Unit → Work β} (h : (f ()).Leaves Q) : (say s >>= f).Leaves Q :=
  modify_bind (t := .empty) (fun _ => by simp) (by simpa using h)

/-- A look for a stop leaves nothing, and what follows is asked of both answers. -/
lemma checkStop_bind {t : Token} {f : Bool → Work β} (h : ∀ b, (f b).Leaves Q) :
    (checkStop t >>= f).Leaves Q := by
  intro w
  rw [bind_ok (checkStop_apply t w)]
  simpa using h _ w.look

/-- A computation leaves nothing; where it fails, that is all there is. -/
lemma attempt_bind {r : Except RunError α} {f : α → Work β} (hok : ∀ a, (f a).Leaves Q)
    (herr : ∀ e, Q (.error (.failed e)) .empty) : (attempt r >>= f).Leaves Q := by
  cases r with
  | ok a => exact hok a
  | error e => exact Leaves.fail (herr e)

end First

/-- Keeping a failure as a result leaves the same. -/
lemma settle {x : Work α} {Q : Except Halt α → Trail → Prop} (hx : x.Leaves Q) :
    (settle x).Leaves fun r t => match r with
      | .ok (.ok a) => Q (.ok a) t
      | .ok (.error e) => Q (.error (.failed e)) t
      | .error h => h = .hung ∧ Q (.error .hung) t := by
  intro w
  obtain ⟨t, ht, hq⟩ := hx w
  refine ⟨t, ?_⟩
  unfold Connector.settle
  rcases hw : x w with ⟨(e | _) | a, w'⟩ <;> rw [hw] at ht hq
  · exact ⟨ht, hq⟩
  · exact ⟨ht, rfl, hq⟩
  · exact ⟨ht, hq⟩

end Leaves

/-! ## Two runs side by side -/

/-- **Related results**: values that are related, or the same halt. -/
inductive Agree (P : α → β → Prop) : Except Halt α → Except Halt β → Prop where
  | ok {a : α} {b : β} (h : P a b) : Agree P (.ok a) (.ok b)
  | error (h : Halt) : Agree P (.error h) (.error h)

/-- **Two steps in tandem**: from related worlds they come to related results and worlds. -/
def Tandem (R : World → World → Prop) (P : α → β → Prop) (x : Work α) (y : Work β) : Prop :=
  ∀ w u, R w u → Agree P (x w).1 (y u).1 ∧ R (x w).2 (y u).2

namespace Tandem

variable {R : World → World → Prop}

protected lemma pure {P : α → β → Prop} {a : α} {b : β} (h : P a b) :
    Tandem R P (pure a : Work α) (pure b) :=
  fun _ _ hr => ⟨.ok h, hr⟩

protected lemma throw {P : α → β → Prop} (h : Halt) : Tandem R P (throw h : Work α) (throw h) :=
  fun _ _ hr => ⟨.error h, hr⟩

protected lemma fail {P : α → β → Prop} (e : RunError) : Tandem R P (fail e : Work α) (fail e) :=
  Tandem.throw (.failed e)

/-- One computation done on both sides comes to the same value or error. -/
protected lemma attempt (r : Except RunError α) : Tandem R Eq (attempt r) (attempt r) := by
  cases r with
  | ok a => exact Tandem.pure rfl
  | error e => exact Tandem.fail e

/-- Two changes of the world that keep the relation. -/
protected lemma modify {f g : World → World} (h : ∀ w u, R w u → R (f w) (g u)) :
    Tandem R (fun _ _ => True) (modify f : Work Unit) (modify g) :=
  fun w u hr => ⟨.ok trivial, h w u hr⟩

/-- **One step after the other**, on both sides. -/
protected lemma bind {P : α → β → Prop} {Q : γ → δ → Prop} {x : Work α} {y : Work β}
    {f : α → Work γ} {g : β → Work δ} (hx : Tandem R P x y)
    (h : ∀ a b, P a b → Tandem R Q (f a) (g b)) :
    Tandem R Q (x >>= f) (y >>= g) := by
  intro w u hr
  obtain ⟨hp, hr'⟩ := hx w u hr
  rcases hw : x w with ⟨r, w'⟩
  rcases hu : y u with ⟨s, u'⟩
  rw [hw, hu] at hp hr'
  cases hp with
  | ok hab =>
      rw [bind_ok hw, bind_ok hu]
      exact h _ _ hab w' u' hr'
  | error k =>
      rw [bind_error hw, bind_error hu]
      exact ⟨.error k, hr'⟩

/-- Steps that first read the world run in tandem if they do so on every pair of related worlds. -/
lemma bind_get {Q : γ → δ → Prop} {f : World → Work γ} {g : World → Work δ}
    (h : ∀ w u, R w u → Agree Q (f w w).1 (g u u).1 ∧ R (f w w).2 (g u u).2) :
    Tandem R Q (get >>= f) (get >>= g) :=
  fun w u hr => h w u hr

/-- The values of steps in tandem may be said to be related more weakly. -/
lemma mono {P P' : α → β → Prop} {x : Work α} {y : Work β} (h : Tandem R P x y)
    (hp : ∀ a b, P a b → P' a b) : Tandem R P' x y := by
  intro w u hr
  obtain ⟨ha, hr'⟩ := h w u hr
  refine ⟨?_, hr'⟩
  rcases hw : (x w).1 with k | a <;> rcases hu : (y u).1 with k' | b <;> rw [hw, hu] at ha
  · cases ha with
    | error => exact .error _
  · cases ha
  · cases ha
  · cases ha with
    | ok hab => exact .ok (hp _ _ hab)

end Tandem

end Work

/-! ## Runs without stops -/

/-- **A world in which nobody asks for a stop.** -/
structure World.Still (functions : Registry) (w : World) : Prop where
  functions : w.functions = functions
  stops : w.stops = []
  interrupts : w.interrupts = []

namespace Work

variable {α β : Type} {functions : Registry}

/-- **What a step comes to** in worlds without stops, whatever else is in them. -/
def Gives (functions : Registry) (x : Work α) (r : Except RunError α) : Prop :=
  ∀ w : World, w.Still functions → ∃ u : World, u.Still functions ∧ x w = (r.mapError .failed, u)

namespace Gives

protected lemma pure (a : α) : Gives functions (pure a) (.ok a) :=
  fun w h => ⟨w, h, rfl⟩

protected lemma fail (e : RunError) : Gives functions (fail e : Work α) (.error e) :=
  fun w h => ⟨w, h, rfl⟩

/-- A computation, done as a step, comes to its own result. -/
protected lemma attempt (r : Except RunError α) : Gives functions (attempt r) r := by
  cases r with
  | ok a => exact Gives.pure a
  | error e => exact Gives.fail e

/-- What a step comes to after a first one that comes to a value. -/
protected lemma bind {x : Work α} {f : α → Work β} {a : α} {r : Except RunError β}
    (hx : Gives functions x (.ok a)) (hf : Gives functions (f a) r) :
    Gives functions (x >>= f) r := by
  intro w h
  obtain ⟨u, hu, hxw⟩ := hx w h
  obtain ⟨v, hv, hfu⟩ := hf u hu
  exact ⟨v, hv, (bind_ok hxw f).trans hfu⟩

/-- To read the world tells no more than its functions, as far as results go. -/
lemma bind_get {f : World → Work α} {r : Except RunError α}
    (h : ∀ w : World, w.functions = functions → Gives functions (f w) r) :
    Gives functions (get >>= f) r :=
  fun w hw => h w hw.functions w hw

/-- A step that leaves functions and stops as they are. -/
protected lemma modify {m : World → World} (hf : ∀ w, (m w).functions = w.functions)
    (hs : ∀ w, (m w).stops = w.stops) (hi : ∀ w, (m w).interrupts = w.interrupts) :
    Gives functions (modify m) (.ok ()) := fun w h =>
  ⟨m w, ⟨(hf w).trans h.functions, (hs w).trans h.stops, (hi w).trans h.interrupts⟩, rfl⟩

protected lemma emit (e : Event) : Gives functions (emit e) (.ok ()) :=
  Gives.modify (fun _ => rfl) (fun _ => rfl) fun _ => rfl

protected lemma publish (t : Token) (s : JobState) : Gives functions (publish t s) (.ok ()) :=
  Gives.modify (fun _ => rfl) (fun _ => rfl) fun _ => rfl

protected lemma say (s : String) : Gives functions (say s) (.ok ()) :=
  Gives.modify (fun _ => rfl) (fun _ => rfl) fun _ => rfl

/-- No token is stopped. -/
protected lemma checkStop (t : Token) : Gives functions (checkStop t) (.ok false) := by
  intro w h
  have silent : w.look.stops = [] := by simp [World.look, h.stops, h.interrupts]
  refine ⟨w.look, ⟨h.functions, silent, by simp [World.look, h.interrupts]⟩, ?_⟩
  rw [checkStop_apply, World.isStopRequested, silent]
  rfl

/-- A step whose error is kept as a value comes to its result as a value. -/
protected lemma settle {x : Work α} {r : Except RunError α} (hx : Gives functions x r) :
    Gives functions (settle x) (.ok r) := by
  intro w h
  obtain ⟨u, hu, hxw⟩ := hx w h
  refine ⟨u, hu, ?_⟩
  unfold Connector.settle
  rw [hxw]
  cases r <;> rfl

end Gives

/-! ## Values -/

/-- **What holds of every value** that a step comes to, in whatever world. -/
def Yields (x : Work α) (Q : α → Prop) : Prop := ∀ w a u, x w = (.ok a, u) → Q a

namespace Yields

protected lemma pure {a : α} {Q : α → Prop} (h : Q a) : Yields (pure a : Work α) Q := by
  intro w b u hb
  cases hb
  exact h

/-- What holds of the values of a step after a first one, for each of whose values it holds. -/
protected lemma bind {P : α → Prop} {Q : β → Prop} {x : Work α} {f : α → Work β}
    (hx : Yields x P) (hf : ∀ a, P a → Yields (f a) Q) : Yields (x >>= f) Q := by
  intro w b u hb
  obtain ⟨a, w', ha, hb⟩ := exists_of_bind_apply hb
  exact hf a (hx w a w' ha) w' b u hb

protected lemma fail {e : RunError} {Q : α → Prop} : Yields (fail e : Work α) Q := by
  intro w a u h
  rw [fail_apply] at h
  cases h

lemma mono {P Q : α → Prop} {x : Work α} (hx : Yields x P) (h : ∀ a, P a → Q a) : Yields x Q :=
  fun w a u ha => h a (hx w a u ha)

/-- A step that comes first and whose value does not matter. -/
lemma after {x : Work α} {f : α → Work β} {Q : β → Prop} (hf : ∀ a, Yields (f a) Q) :
    Yields (x >>= f) Q := by
  refine Yields.bind (P := fun _ => True) ?_ fun a _ => hf a
  intro w a u _
  exact trivial

/-- What a step comes to is what it comes to when its failure is kept. -/
protected lemma settle {Q : α → Prop} {x : Work α} (hx : Yields x Q) :
    Yields (settle x) fun r => ∀ a, r = .ok a → Q a := by
  intro w r u hr a ha
  unfold Connector.settle at hr
  rcases hw : x w with ⟨(e | _) | b, v⟩ <;> rw [hw] at hr <;> cases hr <;> cases ha
  exact hx w _ _ hw

end Yields

/-! ## Errors -/

/-- **What holds of every error** that a step fails with, in whatever world. -/
def FailsBy (x : Work α) (P : RunError → Prop) : Prop :=
  ∀ w e u, x w = (.error (.failed e), u) → P e

namespace FailsBy

variable {P : RunError → Prop}

/-- A step that always comes to a value. -/
lemma of_ok {x : Work α} (h : ∀ w, ∃ a u, x w = (.ok a, u)) : FailsBy x P := by
  intro w e u he
  obtain ⟨a, v, hw⟩ := h w
  cases hw.symm.trans he

protected lemma pure (a : α) : FailsBy (pure a : Work α) P :=
  of_ok fun w => ⟨a, w, pure_apply a w⟩

/-- To wait for ever is no error. -/
protected lemma hung : FailsBy (throw .hung : Work α) P := by
  intro w e u h
  rw [throw_apply] at h
  cases h

protected lemma fail {e : RunError} (h : P e) : FailsBy (fail e : Work α) P := by
  intro w e' u he
  rw [fail_apply] at he
  cases he
  exact h

/-- A computation fails as a step with the errors that it fails with by itself. -/
protected lemma attempt {r : Except RunError α} (h : ∀ e, r = .error e → P e) :
    FailsBy (attempt r) P := by
  cases r with
  | ok a => exact FailsBy.pure a
  | error e => exact FailsBy.fail (h e rfl)

protected lemma modify (f : World → World) : FailsBy (modify f : Work Unit) P :=
  of_ok fun w => ⟨(), f w, modify_apply f w⟩

protected lemma checkStop (t : Token) : FailsBy (checkStop t) P :=
  of_ok fun w => ⟨_, w.look, checkStop_apply t w⟩

/-- Two steps fail with the errors of the first or of the second. -/
protected lemma bind {x : Work α} {f : α → Work β} (hx : FailsBy x P)
    (hf : ∀ a, FailsBy (f a) P) : FailsBy (x >>= f) P := by
  intro w e u h
  rcases hw : x w with ⟨k | a, w'⟩
  · rw [bind_error hw] at h
    cases h
    exact hx w e _ hw
  · rw [bind_ok hw] at h
    exact hf a w' e u h

lemma get_bind {f : World → Work β} (hf : ∀ w, FailsBy (f w) P) : FailsBy (get >>= f) P :=
  fun w e u h => hf w w e u h

/-- A step whose failure is kept does not fail. -/
protected lemma settle (x : Work α) : FailsBy (settle x) P := by
  intro w e u h
  unfold Connector.settle at h
  rcases hw : x w with ⟨(e' | _) | a, v⟩ <;> rw [hw] at h <;> cases h

/-- The failure that is kept is the one of the step. -/
lemma settle_yields {x : Work α} (hx : FailsBy x P) :
    Yields (settle x) fun r => ∀ e, r = .error e → P e := by
  intro w r u hr e he
  unfold Connector.settle at hr
  rcases hw : x w with ⟨(e' | _) | a, v⟩ <;> rw [hw] at hr <;> cases hr <;> cases he
  exact hx w _ _ hw

/-- After a step whose failure is kept, for each way it may end. -/
lemma settle_bind {x : Work α} {f : Except RunError α → Work β} (hx : FailsBy x P)
    (hok : ∀ a, FailsBy (f (.ok a)) P) (herr : ∀ e, P e → FailsBy (f (.error e)) P) :
    FailsBy (Connector.settle x >>= f) P := by
  intro w e u h
  rcases hw : Connector.settle x w with ⟨k | r, w'⟩
  · rw [bind_error hw] at h
    cases h
    exact (FailsBy.settle x w e _ hw : P e)
  · rw [bind_ok hw] at h
    rcases r with e' | a
    · exact herr e' (hx.settle_yields w _ w' hw e' rfl) w' e u h
    · exact hok a w' e u h

end FailsBy

end Work

end Connector
