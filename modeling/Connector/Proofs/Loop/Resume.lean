import Connector.Proofs.Context
import Connector.Proofs.Loop.Lockstep

/-!
# Starting again from a checkpoint

A job that is started again with the store that another run has left between two rounds goes on
where that run was.  What was written under one context is found again under the first one, and
from there on the two loops run in tandem: their contexts agree but for the latest response until
the next one is stored, and are the same from then on.

* `Loop.Step.stored` — what a round that goes on has written.
* `Follows` — the worlds of two runs of which one has a past.
* `Loop.rounds_tandem` — all rounds of two loops in such worlds.
* **`RequestJob.run_restarted`** — the run that goes on and the one that starts again.
-/

namespace Connector

open Work

/-- **A world in which nothing comes from outside** but the given answers. -/
structure World.Calm (t : Token) (functions : Registry) (answers : List Answer) (w : World) :
    Prop where
  undisturbed : w.Undisturbed t
  scripted : w.network = .scripted
  functions : w.functions = functions
  answers : w.answers = answers

namespace World.Calm

variable {t : Token} {functions : Registry} {answers : List Answer} {w : World}

/-- Two runs in one calm world: whatever a loop does there leaves it calm. -/
lemma congruence (t : Token) (functions : Registry) (answers : List Answer) :
    Congruence (fun w u => w = u ∧ w.Calm t functions answers) Eq Eq t t where
  functions h := h.1 ▸ rfl
  store h := h.1 ▸ rfl
  outages h := h.1 ▸ rfl
  tell := by
    rintro w _ e _ rfl ⟨rfl, ⟨hs, hi, ha, hr⟩, hn, hf, hl⟩
    exact ⟨rfl, ⟨hs, hi, ha, hr⟩, hn, hf, hl⟩
  print := by
    rintro w _ e _ rfl ⟨rfl, ⟨hs, hi, ha, hr⟩, hn, hf, hl⟩
    exact ⟨rfl, ⟨hs, hi, ha, hr⟩, hn, hf, hl⟩
  display := by
    rintro w _ s ⟨rfl, ⟨hs, hi, ha, hr⟩, hn, hf, hl⟩
    exact ⟨rfl, ⟨hs, hi, ha, hr⟩, hn, hf, hl⟩
  keep := by
    rintro w _ s ⟨rfl, ⟨hs, hi, ha, hr⟩, hn, hf, hl⟩
    exact ⟨rfl, ⟨hs, hi, ha, hr⟩, hn, hf, hl⟩
  sameEvent _ := rfl
  sameText _ := rfl

lemma look (h : w.Calm t functions answers) : w.look.Calm t functions answers := by
  rwa [World.look_of_no_interrupts h.undisturbed.interrupts]

/-- An exchange takes an answer and leaves the world calm. -/
lemma exchange (h : w.Calm t functions answers) (r : Http.Request) :
    (w.exchange r).Calm t functions (answers.drop 1) := by
  refine ⟨h.undisturbed.exchange r, ?_, ?_, ?_⟩ <;> rw [h.undisturbed.exchange_eq]
  · exact h.scripted
  · exact h.functions
  · rw [h.answers]

end World.Calm

namespace Loop

variable {l : Loop} {c c' : Context} {w w' u : World} {i : Nat}

/-! ## What a round has written -/

/-- A processor that succeeds leaves its context. -/
lemma process_ok {p : Processor} (h : l.process p c w = (.ok c', w')) :
    c' = (p.run w.functions c).context := by
  rw [process, bind_ok (get_apply w), bind_ok (say_apply _ w)] at h
  rcases ho : (p.run w.functions c).outcome with e | _ | outputs <;> rw [ho] at h <;> cases h <;>
    rfl

/-- A checkpoint that was written was rendered and kept by the store. -/
lemma writeCheckpoint_ok {checkpoint : Checkpoint} (hc : l.request.checkpoint = some checkpoint)
    (h : l.writeCheckpoint c w = (.ok (), w')) {s : Store} (hs : w.store = some s) :
    ∃ scope content kept outage, checkpoint.renderScope c = .ok scope ∧
      checkpoint.renderContent c = .ok content ∧ s.set scope content outage = .ok kept ∧
      w'.store = some kept := by
  rw [writeCheckpoint, hc] at h
  obtain ⟨scope, v, hscope, written⟩ := exists_of_bind_apply h
  obtain ⟨found, rfl⟩ := attempt_eq_ok hscope
  obtain ⟨content, u, hcontent, kept⟩ := exists_of_bind_apply written
  obtain ⟨rendered, rfl⟩ := attempt_eq_ok hcontent
  rw [bind_ok (get_apply u), hs] at kept
  rcases hk : s.set scope content (u.outages 0) with e | after
  · simp only [hk, bind_apply, fail_apply] at kept
    cases kept
  · refine ⟨scope, content, after, _, found, rendered, hk, ?_⟩
    simp only [hk] at kept
    rw [bind_ok (modify_apply _ u), emit_apply] at kept
    cases kept
    rfl

/-- **What a response leaves**: the context that the second processor leaves, with the checkpoint
written in it. -/
lemma digest_ok {r : Http.Response} {stop : Bool} (h : l.digest i r c w = (.ok (c', stop), w')) :
    c' = (l.request.after.run w.functions (Record.insert responseKey r.toJson c)).context ∧
      ∃ u u', l.writeCheckpoint c' u = (.ok (), u') ∧ u.store = w.store ∧ w'.store = u'.store := by
  rw [digest, bind_ok (publish_apply _ _ w)] at h
  obtain ⟨context, u, hp, rest⟩ := exists_of_bind_apply h
  obtain ⟨⟨⟩, u', hk, told⟩ := exists_of_bind_apply rest
  have stored := l.process_store l.request.after (Record.insert responseKey r.toJson c)
    (w.display l.token .processing)
  rw [hp] at stored
  rw [bind_ok (emit_apply _ u'), bind_ok (get_apply _)] at told
  obtain ⟨⟨⟩, v, said, gate⟩ := exists_of_bind_apply told
  obtain ⟨last, v', hl, done⟩ := exists_of_bind_apply gate
  obtain ⟨-, rfl⟩ := attempt_eq_ok hl
  have after := process_ok hp
  cases said
  cases done
  exact ⟨after, u, u', hk, stored, rfl⟩

/-- What is sent is sent in the context that the first processor leaves. -/
lemma ready_ok {x : Http.Request × Context} (h : l.ready c w = (.ok x, u)) :
    x.2 = (l.request.before.run w.functions c).context := by
  rw [ready, bind_ok (publish_apply _ _ w)] at h
  obtain ⟨request, v, hr, rest⟩ := exists_of_bind_apply h
  obtain ⟨-, rfl⟩ := attempt_eq_ok hr
  rw [bind_ok (publish_apply _ _ _)] at rest
  obtain ⟨context, v, hp, done⟩ := exists_of_bind_apply rest
  have after := process_ok hp
  cases done
  exact after

/-- Where there is a page, there was a response. -/
lemma receive_ok {answer : Answer} {stop : Bool}
    (h : l.receive i answer c w = (.ok (.page c' stop), w')) :
    ∃ r, answer = .response r ∧ l.digest i r c w = (.ok (c', stop), w') := by
  cases answer with
  | silence => cases h
  | refusal e =>
      simp only [receive] at h
      split_ifs at h <;> cases h
  | response r =>
      simp only [receive] at h
      split_ifs at h
      · cases h
      · obtain ⟨x, v, hd, done⟩ := exists_of_bind_apply h
        cases done
        exact ⟨r, rfl, hd⟩

variable {functions : Registry} {answers : List Answer}

/-- Everything before a request leaves the world calm. -/
lemma ready_calm (h : w.Calm l.token functions answers) (c : Context) :
    (l.ready c w).2.Calm l.token functions answers :=
  (ready_tandem_same (World.Calm.congruence l.token functions answers) c w w ⟨rfl, h⟩).2.2

lemma receive_calm (h : w.Calm l.token functions answers) (i : Nat) (answer : Answer)
    (c : Context) :
    (l.receive i answer c w).2.Calm l.token functions answers :=
  (receive_tandem (World.Calm.congruence l.token functions answers) (fun _ => rfl) rfl
    (fun _ => rfl) answer w w ⟨rfl, h⟩).2.2

/-- **What a round that goes on does in a calm world**: the world stays calm, the context stays in
order, and the checkpoint is written in the new context. -/
theorem Step.calm {p q : Point} (hs : l.Step p q)
    (hc : p.world.Calm l.token functions p.answers) :
    q.world.Calm l.token functions q.answers ∧ (p.context.Ordered → q.context.Ordered) ∧
      ∀ checkpoint s, l.request.checkpoint = some checkpoint → p.world.store = some s →
        ∃ scope content kept outage, checkpoint.renderScope q.context = .ok scope ∧
          checkpoint.renderContent q.context = .ok content ∧
          s.set scope content outage = .ok kept ∧ q.world.store = some kept := by
  cases hs with
  | @intro n answer rest c c' w w' h =>
      rcases hr : l.ready c w with ⟨e | x, u⟩
      · rw [round_of_ready_error hr] at h
        cases h
      · have prepared := ready_calm hc c
        have stored := l.ready_store c w
        rw [hr] at prepared stored
        have answered : l.receive (n + 1) answer x.2 (u.look.exchange x.1) =
            (.ok (.page c' false), w') := by
          rw [round_of_running hr prepared.look.undisturbed.notStopped prepared.scripted] at h
          exact h
        have exchanged := prepared.look.exchange x.1
        have kept : (u.look.exchange x.1).store = w.store := by
          rw [prepared.look.undisturbed.exchange_eq]
          exact stored
        have received := receive_calm exchanged (n + 1) answer x.2
        rw [answered] at received
        have repeating := (World.Calm.congruence l.token functions rest).display .repeating
          ⟨rfl, received⟩
        obtain ⟨r, -, hd⟩ := receive_ok answered
        obtain ⟨hc', v, v', hw, hv, hv'⟩ := digest_ok hd
        refine ⟨repeating.2, fun ho => ?_, fun checkpoint s hcp hst => ?_⟩
        · have before : x.2.Ordered := ready_ok hr ▸ Processor.ordered_run _ _ ho
          rw [hc']
          exact Processor.ordered_run _ _ (before.insert _ _)
        · obtain ⟨scope, content, after, outage, h1, h2, h3, h4⟩ :=
            writeCheckpoint_ok hcp hw (hv.trans (kept.trans hst))
          exact ⟨scope, content, after, outage, h1, h2, h3, hv'.trans h4⟩

/-- **What is there after rounds that go on** from a context in order, in a calm world with a
store. -/
theorem Reaches.calm {p q : Point} (h : l.Reaches p q)
    (hc : p.world.Calm l.token functions p.answers) (ho : p.context.Ordered) {s : Store}
    (hs : p.world.store = some s) {checkpoint : Checkpoint}
    (hcp : l.request.checkpoint = some checkpoint) :
    q.world.Calm l.token functions q.answers ∧ q.context.Ordered ∧
      ∃ kept, q.world.store = some kept ∧
        (p.iteration < q.iteration → ∃ scope content, checkpoint.renderScope q.context = .ok scope ∧
          checkpoint.renderContent q.context = .ok content ∧
          kept.get scope = .ok (some content)) := by
  induction h with
  | refl => exact ⟨hc, ho, s, hs, fun h => absurd h (lt_irrefl _)⟩
  | @tail r q _ hq ih =>
      obtain ⟨calm, ordered, before, hb, -⟩ := ih
      obtain ⟨calm', ordered', written⟩ := hq.calm calm
      obtain ⟨scope, content, kept, outage, hscope, hcontent, hset, hkept⟩ :=
        written checkpoint before hcp hb
      have found : kept.get scope = .ok (some content) := by
        rw [Store.set] at hset
        split at hset
        · cases hset
        · cases hset
          simp [Store.get, Record.get?_insert]
      exact ⟨calm', ordered' ordered, kept, hkept, fun _ => ⟨scope, content, hscope, hcontent, found⟩⟩

end Loop

/-! ## Two runs, one with a past -/

/-- **The worlds of two runs**, of which the first one has come to `a` and the second one starts
in `b`: what is sent and told of responses from there on is the same in both. -/
structure Follows (t t' : Token) (functions : Registry) (a b u v : World) : Prop where
  left : u.Undisturbed t
  right : v.Undisturbed t'
  scripted : u.network = .scripted ∧ v.network = .scripted
  functions : u.functions = functions ∧ v.functions = functions
  store : u.store = v.store
  outages : u.outages = v.outages
  sent : ∃ sent, u.sent = a.sent ++ sent ∧ v.sent = b.sent ++ sent
  pages : ∃ pages, u.pages = a.pages ++ pages ∧ v.pages = b.pages ++ pages

/-- Two events that tell of the same response, or of none. -/
def SamePage (e e' : Event) : Prop := e.page? = e'.page?

namespace Follows

variable {t t' : Token} {functions : Registry} {a b u v : World}

/-- An event that is told on both sides adds a page to both or to none. -/
lemma pages_tell {e e' : Event} (he : SamePage e e')
    (h : ∃ pages, u.pages = a.pages ++ pages ∧ v.pages = b.pages ++ pages) :
    ∃ pages, (u.tell e).pages = a.pages ++ pages ∧ (v.tell e').pages = b.pages ++ pages := by
  obtain ⟨pages, hu, hv⟩ := h
  refine ⟨pages ++ e.page?.toList, ?_, ?_⟩
  · have told : (u.tell e).pages = u.pages ++ e.page?.toList := by
      simp only [World.pages, World.tell, List.filterMap_append, List.filterMap_cons]
      cases e.page? <;> rfl
    rw [told, hu, List.append_assoc]
  · have told : (v.tell e').pages = v.pages ++ e'.page?.toList := by
      simp only [World.pages, World.tell, List.filterMap_append, List.filterMap_cons]
      cases e'.page? <;> rfl
    rw [told, hv, he, List.append_assoc]

/-- The run that is resumed uses the same functions and answers as the one that it follows. -/
lemma congruence (t t' : Token) (functions : Registry) (a b : World) :
    Congruence (Follows t t' functions a b) SamePage (fun _ _ => True) t t' where
  functions h := h.functions.1.trans h.functions.2.symm
  store h := h.store
  outages h := h.outages
  tell := by
    rintro u v e e' he ⟨⟨hs, hi, ha, hr⟩, ⟨hs', hi', ha', hr'⟩, hn, hf, hst, ho, hsent, hp⟩
    exact ⟨⟨hs, hi, ha, hr⟩, ⟨hs', hi', ha', hr'⟩, hn, hf, hst, ho, hsent, pages_tell he hp⟩
  print := by
    rintro u v s s' - ⟨⟨hs, hi, ha, hr⟩, ⟨hs', hi', ha', hr'⟩, hn, hf, hst, ho, hsent, hp⟩
    exact ⟨⟨hs, hi, ha, hr⟩, ⟨hs', hi', ha', hr'⟩, hn, hf, hst, ho, hsent, hp⟩
  display := by
    rintro u v s ⟨⟨hs, hi, ha, hr⟩, ⟨hs', hi', ha', hr'⟩, hn, hf, hst, ho, hsent, hp⟩
    exact ⟨⟨hs, hi, ha, hr⟩, ⟨hs', hi', ha', hr'⟩, hn, hf, hst, ho, hsent, hp⟩
  keep := by
    rintro u v s ⟨⟨hs, hi, ha, hr⟩, ⟨hs', hi', ha', hr'⟩, hn, hf, -, ho, hsent, hp⟩
    exact ⟨⟨hs, hi, ha, hr⟩, ⟨hs', hi', ha', hr'⟩, hn, hf, rfl, ho, hsent, hp⟩
  sameEvent _ := rfl
  sameText _ := trivial

/-- Neither run is stopped. -/
lemma checkStop_tandem (t t' : Token) (functions : Registry) (a b : World) :
    Tandem (Follows t t' functions a b) (fun x y => x = false ∧ y = false)
      (checkStop t) (checkStop t') := by
  intro u v h
  rw [checkStop_apply, checkStop_apply, World.look_of_no_interrupts h.left.interrupts,
    World.look_of_no_interrupts h.right.interrupts]
  exact ⟨.ok ⟨h.left.notStopped, h.right.notStopped⟩, h⟩

/-- Both runs send the request and get the same answer. -/
lemma send_tandem (t t' : Token) (functions : Registry) (a b : World) (request : Http.Request)
    (answer : Option Answer) :
    Tandem (Follows t t' functions a b) Eq (Loop.send request answer)
      (Loop.send request answer) := by
  refine Tandem.bind_get fun u v h => ?_
  rw [h.scripted.1, h.scripted.2]
  refine Tandem.bind (Tandem.modify fun u v h => ?_) (fun _ _ _ => Tandem.pure rfl) u v h
  have left := h.left.exchange request
  have right := h.right.exchange request
  obtain ⟨sent, hu, hv⟩ := h.sent
  rw [h.left.exchange_eq] at left ⊢
  rw [h.right.exchange_eq] at right ⊢
  have outages : (u.count request).outages = (v.count request).outages := by
    simp only [World.count, h.outages]
  refine ⟨left, right, h.scripted, h.functions, h.store, outages, ⟨sent ++ [request], ?_, ?_⟩,
    h.pages⟩
  · rw [← List.append_assoc, ← hu]; rfl
  · rw [← List.append_assoc, ← hv]; rfl

lemma lockstep (t t' : Token) (functions : Registry) (a b : World) :
    Lockstep (Follows t t' functions a b) SamePage (fun _ _ => True) t t' where
  toCongruence := congruence t t' functions a b
  looks := (checkStop_tandem t t' functions a b).mono fun _ _ h => h.1.trans h.2.symm
  sends := send_tandem t t' functions a b

end Follows

namespace Loop

/-- **Contexts in which a request makes no difference** before the next response is stored. -/
structure Interchange (request : Request) (functions : Registry) (C : Context → Context → Prop) :
    Prop where
  render {c c' : Context} : C c c' → render request.options c = render request.options c'
  before {c c' : Context} : C c c' → Processor.Alike C (fun _ _ => True)
    (request.before.run functions c) (request.before.run functions c')
  insert {c c' : Context} : C c c' →
    ∀ v, Record.insert responseKey v c = Record.insert responseKey v c'

variable {l : Loop} {t t' : Token} {functions : Registry} {a b : World}
  {C : Context → Context → Prop} {c c' : Context}

lemma Interchange.interchangeable {request : Request} (hC : Interchange request functions C) :
    Interchangeable (Follows t t' functions a b) (fun _ _ => True) request C where
  render := hC.render
  insert := hC.insert
  before := by
    intro c c' u v hc h
    rw [h.functions.1, h.functions.2]
    exact hC.before hc

/-- **All rounds of both loops.** -/
theorem rounds_tandem (answers : List Answer) (hC : Interchange l.request functions C)
    (hc : C c c') (n n' : Nat) :
    Tandem (Follows l.token t functions a b) (LoopResult.Alike C) (l.rounds answers n c)
      ((l.withToken t).rounds answers n' c') :=
  rounds_lockstep (Follows.lockstep l.token t functions a b) answers hC.interchangeable hc n n'
    fun _ _ => rfl

end Loop

/-! ## A request job -/

/-- **A checkpoint restores a context** over the one that a job starts with: it is found again
there, and what it holds makes up for everything but the latest response. -/
structure Checkpoint.Restores (checkpoint : Checkpoint) (start context : Context) : Prop where
  found : ∃ scope scope', checkpoint.renderScope start = .ok scope ∧
    checkpoint.renderScope context = .ok scope' ∧ namespaceKey scope = namespaceKey scope'
  agrees : ∃ content, checkpoint.renderContent context = .ok content ∧
    ∀ name, name ≠ responseKey →
      Record.get? name (Record.overlay start content) = Record.get? name context

/-- **A request does not look at the latest response** before it is sent: neither what is sent nor
what the first processor comes to depends on it. -/
structure Request.IgnoresResponse (request : Request) (functions : Registry) : Prop where
  render {c c' : Context} : Record.AgreeOff responseKey c c' →
    Loop.render request.options c = Loop.render request.options c'
  before {c c' : Context} : Record.AgreeOff responseKey c c' →
    (request.before.run functions c).outcome = (request.before.run functions c').outcome

/-- A request that ignores the response may do with a context that lacks it. -/
lemma Request.IgnoresResponse.interchange {request : Request} {functions : Registry}
    (h : request.IgnoresResponse functions) :
    Loop.Interchange request functions (Record.AgreeOff responseKey) where
  render := h.render
  insert hc v := hc.insert_eq v
  before := by
    intro c c' hc
    have same := h.before hc
    have agree {o : Processor.Outcome} := request.before.run_agreeOff hc same (o := o)
    rcases hr : request.before.run functions c with ⟨o, d, s⟩
    rcases hr' : request.before.run functions c' with ⟨o', d', s'⟩
    rw [hr, hr'] at same agree
    obtain rfl : o = o' := same
    rcases o with e | _ | outputs
    · exact .failed trivial
    · exact .skipped (agree rfl) trivial
    · exact .ran (agree rfl) trivial

/-- **How a job ends that was started again after `k` responses**, next to how it ends otherwise. -/
inductive JobReport.Continues (k : Nat) :
    Except Halt JobReport → Except Halt JobReport → Prop where
  | completed {r r' : JobReport} (hn : r.name = r'.name) (ho : r.outcome = r'.outcome)
      (hi : r.iterations = k + r'.iterations)
      (hs : r'.iterations = 0 → Record.AgreeOff responseKey r.context r'.context)
      (hl : 0 < r'.iterations → r.context = r'.context) : Continues k (.ok r) (.ok r')
  | halted (h : Halt) : Continues k (.error h) (.error h)

/-- **A run `v` that starts in `b` goes on where a run `u` was at `p`.** -/
structure RequestJob.Continues (p : Loop.Point) (b : World) (u v : Except Halt JobReport × World) :
    Prop where
  sent : ∃ later, u.2.sent = p.world.sent ++ later ∧ v.2.sent = b.sent ++ later
  pages : ∃ later, u.2.pages = p.world.pages ++ later ∧ v.2.pages = b.pages ++ later
  store : v.2.store = u.2.store
  result : JobReport.Continues p.iteration u.1 v.1

namespace RequestJob

variable {request : Request} {context start : Context} {t t' : Token} {w w' : World}
  {p : Loop.Point}

/-- Two loops that are alike in worlds of which one follows the other make two such jobs. -/
lemma continues_of_finish {r s : Except Halt LoopResult × World} {pages : List Context}
    (ha : Agree (LoopResult.Alike (Record.AgreeOff responseKey)) r.1 s.1)
    (hf : Follows t t' w.functions p.world w' r.2 s.2) (hp : pages.length = p.iteration) :
    Continues p w' (RequestJob.close ⟨request, start, t⟩ (r.1.map (·.behind pages), r.2))
      (RequestJob.close ⟨request, start, t'⟩ s) where
  sent := by rw [sent_close, sent_close]; exact hf.sent
  pages := by rw [pages_close, pages_close]; exact hf.pages
  store := by rw [store_close, store_close]; exact hf.store.symm
  result := by
    rcases r with ⟨r, u⟩
    rcases s with ⟨s, v⟩
    cases ha with
    | error h => rcases h with e | _ <;> exact .halted _
    | @ok r s hrs =>
        have more : (r.behind pages).iterations = p.iteration + s.iterations := by
          rw [LoopResult.iterations, LoopResult.behind, List.length_append, hp, hrs.pages]
          rfl
        exact .completed rfl hrs.outcome more (fun h => hrs.start (List.length_eq_zero_iff.1 h))
          fun h => hrs.later (List.length_pos_iff.1 h)

/-- A loop starts from its context with what is stored laid over it, be it nothing. -/
lemma overlay_of_resumed {l : Loop} {c : Context} (h : l.resumed context w = .ok c) :
    ∃ saved : Context, c = Record.overlay context saved := by
  rw [Loop.resumed] at h
  split at h
  · split at h
    · split_ifs at h
      exact ⟨[], (Except.ok.inj h).symm⟩
    · split at h
      · cases h
      · exact ⟨_, (Except.ok.inj h).symm⟩
  · exact ⟨[], (Except.ok.inj h).symm⟩

/-- What was written in a context that the checkpoint restores is laid over the context that a job
starts with, where the store can be read. -/
lemma resumed_of_restores {l : Loop} {checkpoint : Checkpoint} {scope : List String} {s : Store}
    {c content : Context} (hcp : l.request.checkpoint = some checkpoint)
    (hr : checkpoint.Restores context c) (hscope : checkpoint.renderScope c = .ok scope)
    (hcontent : checkpoint.renderContent c = .ok content)
    (hs : s.get scope = .ok (some content)) (hw : w.store = some s)
    (ho : (w.outages 0).read = none) :
    l.resumed context w = .ok (Record.overlay context content) ∧
      ∀ name, name ≠ responseKey →
        Record.get? name (Record.overlay context content) = Record.get? name c := by
  obtain ⟨scope', scope'', here, there, hkey⟩ := hr.found
  obtain ⟨content', rendered, agrees⟩ := hr.agrees
  obtain rfl : scope'' = scope := Except.ok.inj (there.symm.trans hscope)
  obtain rfl : content' = content := Except.ok.inj (rendered.symm.trans hcontent)
  have found : s.get scope' (w.outages 0) = .ok (some content') := by
    rw [← hs, Store.get, Store.get, hkey, ho]
  exact ⟨by simp [Loop.resumed, hcp, hw, here, found], agrees⟩

lemma calm_begun (j : RequestJob) {functions : Registry} {answers : List Answer}
    (h : w.Calm t functions answers) : (j.begun w).Calm t functions answers := by
  have told := (World.Calm.congruence t functions answers).tell (e := .jobStarted j.name) rfl
    ⟨rfl, h⟩
  rw [begun]
  exact told.2.look

/-- A job that starts in a world follows a run that has come to the same store. -/
lemma follows_begun (j : RequestJob) {functions : Registry} {answers : List Answer}
    (hw : w.Calm t functions answers) (hw' : w'.Calm t' functions answers)
    (hst : w'.store = w.store) (ho : w'.outages = w.outages) :
    Follows t t' functions w w' w (j.begun w') := by
  have calm := j.calm_begun hw'
  have told : (j.begun w').pages = w'.pages := by
    simp [begun, World.pages, World.tell, World.look, Event.page?]
  have sent : (j.begun w').sent = w'.sent := rfl
  exact ⟨hw.undisturbed, calm.undisturbed, ⟨hw.scripted, calm.scripted⟩,
    ⟨hw.functions, calm.functions⟩, hst.symm, ho.symm, ⟨[], by simp [sent]⟩,
    ⟨[], by simp [told]⟩⟩

/-- **A job that is started again goes on where another run was.**  Let a run come to a point after
some whole round, with a checkpoint that restores the context of that point.  A job of the same
request that starts again with the store of that point, which can be read and which works and
fails from there on as it does for the run, and with the answers still to come sends what the run
sends from there on, leaves the same store and ends alike. -/
theorem run_restarted {checkpoint : Checkpoint} (hcp : request.checkpoint = some checkpoint)
    (start : Bindings Json) (hw : w.Undisturbed t) (hn : w.network = .scripted)
    (hs : ∃ s, w.store = some s) (hp : Passes ⟨request, start.entries, t⟩ w p)
    (hk : 1 ≤ p.iteration) (hr : checkpoint.Restores start.entries p.context)
    (hi : request.IgnoresResponse w.functions) (hw' : w'.Calm t' w.functions p.answers)
    (hst : w'.store = p.world.store) (hou : w'.outages = p.world.outages)
    (hread : (w'.outages 0).read = none) :
    p.world.sent.length = w.sent.length + p.iteration ∧
      Continues p w' (run ⟨request, start.entries, t⟩ w) (run ⟨request, start.entries, t'⟩ w') := by
  obtain ⟨s, hs⟩ := hs
  obtain ⟨pages, hpages, hrun⟩ := run_of_passes hp
  obtain ⟨hnot, c, hc, hreach⟩ := hp
  -- what the run up to `p` leaves there
  have calm := calm_begun ⟨request, start.entries, t⟩ (w := w) ⟨hw, hn, rfl, rfl⟩
  obtain ⟨saved, rfl⟩ := overlay_of_resumed hc
  have ordered : (Record.overlay start.entries saved).Ordered := start.ordered.overlay saved
  obtain ⟨calm', ordered', kept, hkept, written⟩ :=
    Loop.Reaches.calm hreach calm ordered hs hcp
  obtain ⟨scope, content, hscope', hcontent, hget⟩ := written hk
  -- what the new job finds
  have calm'' := calm_begun ⟨request, start.entries, t'⟩ hw'
  obtain ⟨resumes, agrees⟩ :=
    resumed_of_restores (l := toLoop ⟨request, start.entries, t'⟩)
      (w := begun ⟨request, start.entries, t'⟩ w') hcp hr hscope' hcontent hget
      (hst.trans hkept) hread
  have restarts := run_of_running (j := ⟨request, start.entries, t'⟩) calm''.undisturbed.notStopped
  rw [Loop.run_of_resumed (w := begun ⟨request, start.entries, t'⟩ w') resumes,
    calm''.answers] at restarts
  -- from here on both loops run in tandem
  have agree : Record.AgreeOff responseKey p.context (Record.overlay start.entries content) :=
    ⟨ordered', start.ordered.overlay content, fun h => (agrees _ h).symm⟩
  have tandem := Loop.rounds_tandem (l := toLoop ⟨request, start.entries, t⟩) (t := t')
    (a := p.world) (b := w') p.answers hi.interchange agree p.iteration 0
  obtain ⟨results, worlds⟩ := tandem p.world (begun ⟨request, start.entries, t'⟩ w')
    (follows_begun _ calm' hw' hst hou)
  refine ⟨?_, ?_⟩
  · obtain ⟨hsent, -⟩ := Loop.length_of_reaches hreach
    have same : (begun ⟨request, start.entries, t⟩ w).sent.length = w.sent.length := rfl
    simp only [same] at hsent
    omega
  · rw [hrun, restarts]
    exact continues_of_finish results worlds hpages

/-! The first page of items, and a job that starts again behind it. -/

/-- The context that the first page starts from. -/
def itemsStart : Bindings Json := ⟨[("page", .str "1")], List.pairwise_singleton _ _⟩

/-- The job of the pages. -/
def itemsJob : RequestJob := ⟨itemsRequest, itemsStart.entries, [0]⟩

/-- The first round of that job. -/
def itemsRound : Except Halt Loop.Round × World :=
  itemsJob.toLoop.round 1 itemsWorld.answers.head? itemsStart.entries (itemsJob.begun itemsWorld)

/-- Where the job is after its first page. -/
def itemsPoint : Loop.Point where
  iteration := 1
  answers := itemsWorld.answers.tail
  context := [("__response__", (Http.Response.mk 200 [] "a").toJson), ("page", .str "2")]
  world := itemsRound.2.display [0] .repeating

/-- The world in which the job starts again. -/
def itemsRestart : World :=
  { itemsWorld with answers := itemsPoint.answers, store := itemsPoint.world.store }

lemma itemsJob_passes : itemsJob.Passes itemsWorld itemsPoint := by
  have goes : itemsRound = (.ok (.page itemsPoint.context false), itemsRound.2) := Prod.ext rfl rfl
  exact ⟨rfl, itemsStart.entries, rfl, .single (.intro goes)⟩

lemma itemsPoint_restores :
    Checkpoint.Restores ⟨[⟨"items", .literal⟩], [("page", ⟨"2", .literal⟩)]⟩ itemsStart.entries
      itemsPoint.context where
  found := ⟨["items"], ["items"], rfl, rfl, rfl⟩
  agrees := by
    refine ⟨[("page", .str "2")], rfl, fun name h => ?_⟩
    have other : "__response__" ≠ name := Ne.symm h
    have laid : Record.overlay itemsStart.entries [("page", Json.str "2")] =
      [("page", .str "2")] := rfl
    rw [laid]
    simp [itemsPoint, Record.get?, other]

theorem run_restarted_items :
    itemsJob.Passes itemsWorld itemsPoint ∧
      itemsPoint.world.sent.length = itemsWorld.sent.length + 1 ∧
      Continues itemsPoint itemsRestart (itemsJob.run itemsWorld)
        (run ⟨itemsRequest, itemsStart.entries, [1]⟩ itemsRestart) :=
  ⟨itemsJob_passes, run_restarted rfl itemsStart ⟨rfl, rfl, rfl, rfl⟩ rfl ⟨_, rfl⟩ itemsJob_passes
    (Nat.le_refl 1) itemsPoint_restores ⟨fun _ => rfl, fun _ => rfl⟩
    ⟨⟨rfl, rfl, rfl, rfl⟩, rfl, rfl, rfl⟩ rfl rfl rfl⟩

end RequestJob

end Connector
