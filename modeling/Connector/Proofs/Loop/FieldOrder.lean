import Connector.Job.Loop
import Connector.Proofs.Context
import Connector.Proofs.Load
import Connector.Proofs.Work

/-!
# The order of fields

The maps of a definition have no order of their own, and every load goes through them in whatever
order it finds; so do the loaded maps whenever a request is rendered.  The order is seen in one place
only: where two fields of one map fail, it decides which of them is told of.

* `Record.SameFields` — records with the same fields in two orders.
* `Alike` — results that are related, be they values or errors.
* `Definition.Loop.load_alike` — two loads of one definition, in any two orders.
* `Options.Rearranged` — two options whose fields are in different orders;
  `Options.Rearranged.loop_render_alike` — what they come to.
* `SameBut` — steps that are the same but for the error they fail with.
* **`Loop.run_sameBut`** — the loops of two such requests.
-/

namespace Connector

variable {ε ε' α β γ δ : Type}

/-! ## Fields in two orders -/

namespace Record

/-- **The same fields, each once**, in whatever orders. -/
structure SameFields (r s : Record α) : Prop where
  get? (key : String) : Record.get? key r = Record.get? key s
  left : (names r).Nodup
  right : (names s).Nodup

variable {r s : Record α} {key : String} {value : α}

lemma names_erase (key : String) (r : Record α) :
    names (erase key r) = (names r).filter (· ≠ key) := by
  induction r with
  | nil => rfl
  | cons entry rest ih =>
      obtain ⟨k, v⟩ := entry
      rw [names] at ih
      by_cases h : k = key <;> simp [erase, names, h, ih]

/-- To put some fields first changes no value. -/
@[simp] lemma get?_arrange (order : List String) (r : Record α) (key : String) :
    get? key (arrange order r) = get? key r := by
  induction order generalizing r with
  | nil => rfl
  | cons name order ih =>
      rw [arrange]
      split
      · rename_i v found
        rw [get?, ih, get?_erase]
        split_ifs with h
        · rw [← h, found]
        · rfl
      · exact ih r

/-- To put some fields first takes none twice. -/
lemma nodup_arrange (order : List String) (h : (names r).Nodup) :
    (names (arrange order r)).Nodup := by
  induction order generalizing r with
  | nil => exact h
  | cons name order ih =>
      rw [arrange]
      split
      · have rest : (names (erase name r)).Nodup := by
          rw [names_erase]
          exact h.filter _
        refine List.nodup_cons.2 ⟨fun twice => ?_, ih rest⟩
        have found := mem_names_iff.1 twice
        rw [get?_arrange, get?_erase, if_pos rfl] at found
        cases found
      · exact ih h

namespace SameFields

protected lemma refl (h : (names r).Nodup) : r.SameFields r := ⟨fun _ => rfl, h, h⟩

protected lemma symm (h : r.SameFields s) : s.SameFields r :=
  ⟨fun key => (h.get? key).symm, h.right, h.left⟩

/-- Other orders of the same fields. -/
lemma arrange (h : r.SameFields s) (order order' : List String) :
    (r.arrange order).SameFields (s.arrange order') :=
  ⟨fun key => by rw [get?_arrange, get?_arrange, h.get?], nodup_arrange _ h.left,
    nodup_arrange _ h.right⟩

/-- In the order of their names the fields are the same record. -/
lemma sort_eq (h : r.SameFields s) : r.sort = s.sort :=
  (ordered_sort r).ext (ordered_sort s) fun key => by rw [get?_sort, get?_sort, h.get?]

end SameFields

/-- The values of a record with different names are what is under its names. -/
lemma mem_values_iff (h : (names r).Nodup) : value ∈ values r ↔ ∃ key, get? key r = some value := by
  induction r with
  | nil => simp [values]
  | cons entry rest ih =>
      obtain ⟨k, v⟩ := entry
      obtain ⟨fresh, nodup⟩ := List.nodup_cons.1 h
      have absent : get? k rest = none := by
        have none := mt mem_names_iff.2 fresh
        simpa using none
      have tail : value ∈ values rest ↔ ∃ key, get? key rest = some value := ih nodup
      rw [values, List.map_cons, List.mem_cons, ← values, tail]
      constructor
      · rintro (rfl | ⟨key, found⟩)
        · exact ⟨k, by simp [get?]⟩
        · have other : k ≠ key := by
            rintro rfl
            rw [absent] at found
            cases found
          exact ⟨key, by rw [get?, if_neg other, found]⟩
      · rintro ⟨key, found⟩
        rw [get?] at found
        split_ifs at found
        · exact .inl (Option.some.inj found).symm
        · exact .inr ⟨key, found⟩

/-- **One of the fields fails** with the error. -/
def Fails (f : α → Except ε β) (r : Record α) (e : ε) : Prop := ∃ a ∈ values r, f a = .error e

/-- The error of all fields is that of one of them. -/
lemma fails_of_mapValuesM {f : α → Except ε β} {e : ε} (h : r.mapValuesM f = .error e) :
    Fails f r e := by
  induction r with
  | nil => cases h
  | cons entry rest ih =>
      obtain ⟨k, v⟩ := entry
      cases first : f v with
      | error e' =>
          rw [mapValuesM, first] at h
          cases h
          exact ⟨v, List.mem_cons_self .., first⟩
      | ok w =>
          cases later : mapValuesM f rest with
          | error e' =>
              rw [mapValuesM, first, later] at h
              cases h
              obtain ⟨a, ha, fails⟩ := ih later
              exact ⟨a, List.mem_cons_of_mem _ ha, fails⟩
          | ok ws =>
              rw [mapValuesM, first, later] at h
              cases h

/-- A field that fails does so in every order. -/
lemma Fails.of_sameFields {f : α → Except ε β} {e : ε} (h : r.SameFields s) (hf : Fails f r e) :
    Fails f s e := by
  obtain ⟨a, ha, fails⟩ := hf
  obtain ⟨key, found⟩ := (mem_values_iff h.left).1 ha
  exact ⟨a, (mem_values_iff h.right).2 ⟨key, h.get? key ▸ found⟩, fails⟩

/-- Where a field fails, there is no result. -/
lemma Fails.mapValuesM_ne {f : α → Except ε β} {e : ε} (hr : (names r).Nodup) (h : Fails f r e)
    (t : Record β) : r.mapValuesM f ≠ .ok t := by
  intro ok
  obtain ⟨a, ha, fails⟩ := h
  obtain ⟨key, found⟩ := (mem_values_iff hr).1 ha
  obtain ⟨b, hb, -⟩ := get?_mapValuesM ok found
  rw [fails] at hb
  cases hb

/-- **The errors of the fields of a map that is gone through twice**: the same one, or those of two
fields, which takes two orders. -/
def FieldErrors (f : α → Except ε β) (r s : Record α) (e e' : ε) : Prop :=
  e = e' ∨ r ≠ s ∧ Fails f r e ∧ Fails f r e'

end Record

/-! ## Results that are alike -/

/-- **Results that are related**, values and errors. -/
inductive Alike (E : ε → ε' → Prop) (P : α → β → Prop) : Except ε α → Except ε' β → Prop where
  | ok {a : α} {b : β} (h : P a b) : Alike E P (.ok a) (.ok b)
  | error {e : ε} {e' : ε'} (h : E e e') : Alike E P (.error e) (.error e')

namespace Alike

variable {E : ε → ε → Prop} {P : α → β → Prop} {Q : γ → δ → Prop}

protected lemma refl (hE : ∀ e, E e e) (x : Except ε α) : Alike E Eq x x := by
  rcases x with e | a
  · exact .error (hE e)
  · exact .ok rfl

lemma mono {F : ε → ε → Prop} {P' : α → β → Prop} {x : Except ε α} {y : Except ε β}
    (h : Alike E P x y) (hE : ∀ e e', E e e' → F e e') (hP : ∀ a b, P a b → P' a b) :
    Alike F P' x y := by
  cases h with
  | ok h => exact .ok (hP _ _ h)
  | error h => exact .error (hE _ _ h)

/-- Related results that are gone on with alike. -/
protected lemma bind {x : Except ε α} {y : Except ε β} {f : α → Except ε γ} {g : β → Except ε δ}
    (h : Alike E P x y) (hf : ∀ a b, P a b → Alike E Q (f a) (g b)) :
    Alike E Q (x >>= f) (y >>= g) := by
  cases h with
  | ok h => exact hf _ _ h
  | error h => exact .error h

/-- A step that is the same on both sides. -/
lemma bind_same {x : Except ε α} {f : α → Except ε γ} {g : α → Except ε δ} (hE : ∀ e, E e e)
    (hf : ∀ a, Alike E Q (f a) (g a)) : Alike E Q (x >>= f) (x >>= g) :=
  (Alike.refl hE x).bind fun a _ same => same ▸ hf a

end Alike

/-- **A map that is gone through in two orders** gives the same fields, or errors of its fields. -/
theorem Record.mapValuesM_alike {r s : Record α} (f : α → Except ε β) (h : r.SameFields s) :
    Alike (FieldErrors f r s) SameFields (r.mapValuesM f) (s.mapValuesM f) := by
  by_cases same : r = s
  · subst same
    cases hr : r.mapValuesM f with
    | error e => exact .error (.inl rfl)
    | ok t => exact .ok (.refl ((names_mapValuesM hr).symm ▸ h.left))
  · cases hr : r.mapValuesM f with
    | error e =>
        have left := fails_of_mapValuesM hr
        cases hs : s.mapValuesM f with
        | error e' =>
            exact .error (.inr ⟨same, left, (fails_of_mapValuesM hs).of_sameFields h.symm⟩)
        | ok t => exact absurd hs ((left.of_sameFields h).mapValuesM_ne h.right t)
    | ok t =>
        cases hs : s.mapValuesM f with
        | error e' =>
            have right := (fails_of_mapValuesM hs).of_sameFields h.symm
            exact absurd hr (right.mapValuesM_ne h.left t)
        | ok u =>
            refine .ok ⟨fun key => ?_, (names_mapValuesM hr).symm ▸ h.left,
              (names_mapValuesM hs).symm ▸ h.right⟩
            rcases found : get? key r with _ | a
            · have absent {r' : Record α} {t' : Record β} (h' : r'.mapValuesM f = .ok t')
                  (none : get? key r' = Option.none) : get? key t' = Option.none := by
                have unnamed := mt mem_names_iff.1 (by simp [none] : ¬ (get? key r').isSome)
                rw [← names_mapValuesM h', mem_names_iff] at unnamed
                simpa using unnamed
              rw [absent hr found, absent hs (h.get? key ▸ found)]
            · obtain ⟨b, hb, here⟩ := get?_mapValuesM hr found
              obtain ⟨b', hb', there⟩ := get?_mapValuesM hs (h.get? key ▸ found)
              obtain rfl : b = b' := Except.ok.inj (hb.symm.trans hb')
              rw [here, there]

/-! ## Loading -/

/-- **Options whose headers and fields are in other orders.** -/
structure Options.Rearranged (o o' : Options) : Prop where
  url : o.url = o'.url
  method : o.method = o'.method
  headers : o.headers.SameFields o'.headers
  body : o.body.SameFields o'.body
  credentials : o.credentials = o'.credentials

/-- **Requests that differ in the orders of headers and fields only.** -/
structure Request.Rearranged (r r' : Request) : Prop where
  options : r.options.Rearranged r'.options
  same : r' = { r with options := r'.options }

namespace Definition

/-- **The errors of two loads of one definition**: the same one, or those of two fields of one map,
which takes two orders of that map. -/
inductive Loop.SameFault (l : Loop) (order order' : FieldOrder) : RunError → RunError → Prop where
  | same (e : RunError) : SameFault l order order' e e
  | headers {e e' : RunError} (differ : order.headers ≠ order'.headers)
      (left : l.options.headers.entries.Fails compile e)
      (right : l.options.headers.entries.Fails compile e') : SameFault l order order' e e'
  | body {e e' : RunError} (differ : order.body ≠ order'.body)
      (left : l.options.body.entries.Fails compile e)
      (right : l.options.body.entries.Fails compile e') : SameFault l order order' e e'
  | content {c : Checkpoint} {e e' : RunError} (hc : l.checkpoint = some c)
      (differ : order.content ≠ order'.content) (left : c.content.entries.Fails compile e)
      (right : c.content.entries.Fails compile e') : SameFault l order order' e e'

/-- Templates compiled in two orders. -/
lemma compileRecord_alike (b : Bindings String) (order order' : List String) :
    Alike (fun e e' => e = e' ∨
        order ≠ order' ∧ b.entries.Fails compile e ∧ b.entries.Fails compile e')
      Record.SameFields (compileRecord b order) (compileRecord b order') := by
  have fields := Record.SameFields.refl b.ordered.nodup
  refine (Record.mapValuesM_alike compile (fields.arrange order order')).mono ?_ fun _ _ h => h
  rintro e e' (same | ⟨differ, left, right⟩)
  · exact .inl same
  · have back : (b.entries.arrange order).SameFields b.entries := fields.arrange order []
    exact .inr ⟨fun h => differ (h ▸ rfl), left.of_sameFields back, right.of_sameFields back⟩

variable (l : Loop) (order order' : FieldOrder)

/-- What a request sends loads alike in two orders. -/
lemma Loop.options_alike : Alike (l.SameFault order order') Options.Rearranged
    (l.options.load order) (l.options.load order') := by
  have same : ∀ e, l.SameFault order order' e e := .same
  refine Alike.bind_same same fun credentials => ?_
  split_ifs
  · exact .error (.same _)
  refine Alike.bind_same same fun url => ?_
  have headers := (compileRecord_alike l.options.headers order.headers order'.headers).mono
    (F := l.SameFault order order')
    (by rintro e _ (rfl | ⟨differ, left, right⟩); exacts [.same _, .headers differ left right])
    fun _ _ h => h
  have body := (compileRecord_alike l.options.body order.body order'.body).mono
    (F := l.SameFault order order')
    (by rintro e _ (rfl | ⟨differ, left, right⟩); exacts [.same _, .body differ left right])
    fun _ _ h => h
  refine headers.bind fun hs hs' sameHeaders => body.bind fun bs bs' sameBody => .ok ?_
  exact ⟨rfl, rfl, sameHeaders.arrange _ _, sameBody.arrange _ _, rfl⟩

/-- So does its checkpoint, which stands in the order of names afterwards. -/
lemma Loop.checkpoint_alike {c : Checkpoint} (hc : l.checkpoint = some c) :
    Alike (l.SameFault order order') Eq (c.load order.content) (c.load order'.content) := by
  rw [Checkpoint.load, Checkpoint.load]
  split_ifs
  · exact .error (.same _)
  refine Alike.bind_same .same fun scope => ?_
  have content := (compileRecord_alike c.content order.content order'.content).mono
    (F := l.SameFault order order')
    (by rintro e _ (rfl | ⟨differ, left, right⟩); exacts [.same _, .content hc differ left right])
    fun _ _ h => h
  exact content.bind fun ts ts' fields => .ok (by rw [fields.sort_eq])

/-- **One definition loaded twice**, in any two orders of its fields: both loads fail, or both give
the same request but for the orders of its fields. -/
theorem Loop.load_alike (name : String) : Alike (l.SameFault order order') Request.Rearranged
    (l.load name order) (l.load name order') := by
  have checkpoint : Alike (l.SameFault order order') Eq
      (loadOptional (·.load order.content) l.checkpoint)
      (loadOptional (·.load order'.content) l.checkpoint) := by
    cases hc : l.checkpoint with
    | none => exact .ok rfl
    | some c =>
        have loaded := l.checkpoint_alike order order' hc
        exact loaded.bind (f := fun c => .ok (some c)) (g := fun c => .ok (some c))
          fun _ _ same => .ok (congrArg some same)
  refine (l.options_alike order order').bind fun options options' rearranged => ?_
  refine Alike.bind_same .same fun before => Alike.bind_same .same fun after => ?_
  refine Alike.bind_same .same fun repetition => checkpoint.bind ?_
  rintro checkpoint _ rfl
  exact .ok ⟨rearranged, rfl⟩

end Definition

/-! ## Rendering -/

/-- **The errors of two renderings of the same options**: the same one, or those of two fields of one
map in one context, which takes two orders of that map. -/
inductive Options.SameFault (o o' : Options) : RunError → RunError → Prop where
  | same (e : RunError) : SameFault o o' e e
  | headers (context : Context) {e e' : TemplateError} (differ : o.headers ≠ o'.headers)
      (left : o.headers.Fails (·.renderText context) e)
      (right : o.headers.Fails (·.renderText context) e') :
      SameFault o o' (.template e) (.template e')
  | body (context : Context) {e e' : TemplateError} (differ : o.body ≠ o'.body)
      (left : o.body.Fails (·.render context) e) (right : o.body.Fails (·.render context) e') :
      SameFault o o' (.template e) (.template e')

namespace Options.Rearranged

variable {o o' : Options}

/-- Templates rendered in two orders come to the same, or fail with errors of two of them. -/
lemma render_alike {ts ts' : Record Template} (f : Template → Except TemplateError β)
    (h : ts.SameFields ts') {E : RunError → RunError → Prop} (same : ∀ e, E e e)
    (faults : ∀ e e', ts ≠ ts' → ts.Fails f e → ts.Fails f e' → E (.template e) (.template e')) :
    Alike E Eq (((ts.mapValuesM f).mapError .template).map Record.sort)
      (((ts'.mapValuesM f).mapError .template).map Record.sort) := by
  have rendered := Record.mapValuesM_alike f h
  revert rendered
  generalize ts.mapValuesM f = x
  generalize ts'.mapValuesM f = y
  rintro (fields | fault)
  · exact .ok fields.sort_eq
  · obtain rfl | ⟨differ, left, right⟩ := fault
    · exact .error (same _)
    · exact .error (faults _ _ differ left right)

/-- **Two such options come to the same request**, or fail with errors of two fields of a map. -/
theorem loop_render_alike (h : o.Rearranged o') (context : Context) :
    Alike (o.SameFault o') Eq (Loop.render o context) (Loop.render o' context) := by
  have url : o.renderUrl context = o'.renderUrl context := by rw [renderUrl, renderUrl, h.url]
  have headers : Alike (o.SameFault o') Eq (o.renderHeaders context) (o'.renderHeaders context) :=
    render_alike _ h.headers .same fun _ _ differ left right => .headers context differ left right
  have body : Alike (o.SameFault o') Eq (o.renderBody context) (o'.renderBody context) :=
    render_alike _ h.body .same fun _ _ differ left right => .body context differ left right
  rw [Loop.render, Loop.render, url, ← h.method]
  refine Alike.bind_same .same fun url => headers.bind ?_
  rintro own _ rfl
  refine body.bind ?_
  rintro fields _ rfl
  have authorized : o.authorize context own = o'.authorize context own := by
    rw [authorize, authorize, h.credentials]
  rw [authorized]
  exact Alike.refl .same _

end Options.Rearranged

/-! ## Running -/

/-- **How two steps end that are the same but for their errors.** -/
inductive EndsBut (E : RunError → RunError → Prop) : Except Halt α → Except Halt α → Prop where
  | same (r : Except Halt α) : EndsBut E r r
  | failed {e e' : RunError} (h : E e e') : EndsBut E (.error (.failed e)) (.error (.failed e'))

/-- **Steps that are the same but for the error they fail with.** -/
def SameBut (E : RunError → RunError → Prop) (x y : Work α) : Prop :=
  ∀ w, EndsBut E (x w).1 (y w).1 ∧ (x w).2 = (y w).2

namespace SameBut

variable {E : RunError → RunError → Prop}

protected lemma refl (x : Work α) : SameBut E x x := fun w => ⟨.same (x w).1, rfl⟩

protected lemma attempt {r r' : Except RunError α} (h : Alike E Eq r r') :
    SameBut E (attempt r) (attempt r') := by
  intro w
  cases h with
  | ok h => exact ⟨h ▸ .same _, rfl⟩
  | error h => exact ⟨.failed h, rfl⟩

protected lemma bind {x y : Work α} {f g : α → Work β} (h : SameBut E x y)
    (hf : ∀ a, SameBut E (f a) (g a)) : SameBut E (x >>= f) (y >>= g) := by
  intro w
  obtain ⟨results, worlds⟩ := h w
  rw [Work.bind_apply, Work.bind_apply]
  rcases hx : x w with ⟨r, u⟩
  rcases hy : y w with ⟨r', u'⟩
  rw [hx, hy] at results worlds
  obtain rfl : u = u' := worlds
  cases results with
  | same r =>
      rcases r with h | a
      · exact ⟨.same _, rfl⟩
      · exact hf a u
  | failed h => exact ⟨.failed h, rfl⟩

/-- A step that is the same on both sides. -/
lemma bind_same {x : Work α} {f g : α → Work β} (hf : ∀ a, SameBut E (f a) (g a)) :
    SameBut E (x >>= f) (x >>= g) :=
  (SameBut.refl x).bind hf

end SameBut

namespace Loop

/-- The loop with other options. -/
def withOptions (l : Loop) (o : Options) : Loop :=
  { l with request := { l.request with options := o } }

variable (l : Loop) {o : Options} (h : l.request.options.Rearranged o)

include h

/-- Everything before a request is the same but for the error of its rendering. -/
lemma ready_sameBut (context : Context) : SameBut (l.request.options.SameFault o)
    (l.ready context) ((l.withOptions o).ready context) := by
  refine SameBut.bind_same fun _ => ?_
  exact (SameBut.attempt (h.loop_render_alike context)).bind fun request => SameBut.refl _

/-- One round. -/
lemma round_sameBut (i : Nat) (answer : Option Answer) (context : Context) :
    SameBut (l.request.options.SameFault o) (l.round i answer context)
      ((l.withOptions o).round i answer context) := by
  have prepares : SameBut (l.request.options.SameFault o) (l.prepare context)
      ((l.withOptions o).prepare context) :=
    (l.ready_sameBut h context).bind fun x => SameBut.refl _
  exact prepares.bind fun x => SameBut.refl _

/-- **All rounds**, by recursion on the answers still to come. -/
lemma rounds_sameBut (answers : List Answer) (n : Nat) (context : Context) :
    SameBut (l.request.options.SameFault o) (l.rounds answers n context)
      ((l.withOptions o).rounds answers n context) := by
  induction answers generalizing n context with
  | nil => exact (l.round_sameBut h _ _ _).bind fun r => SameBut.refl _
  | cons answer rest ih =>
      refine (l.round_sameBut h _ _ _).bind fun r => ?_
      rcases r with ⟨outcome, c⟩ | ⟨c, _ | _⟩
      · exact SameBut.refl _
      · exact SameBut.bind_same fun _ => (ih (n + 1) c).bind fun _ => SameBut.refl _
      · exact SameBut.refl _

/-- **The loops of two requests whose fields are in other orders** send the same, tell the same and
leave the same; where they fail, it may be with the errors of two fields of one map. -/
theorem run_sameBut (context : Context) : SameBut (l.request.options.SameFault o)
    (l.run context) ((l.withOptions o).run context) :=
  SameBut.bind_same fun c => SameBut.bind_same fun w => l.rounds_sameBut h w.answers 0 c

end Loop

end Connector
