import Connector.Proofs.Harmony
import Connector.Proofs.Loop.Pages
import Connector.Proofs.Loop.Resume
import Mathlib.Data.List.Chain

/-!
# The requests of a loop, by the contexts that it tells of

A loop tells of its context after every response.  The next request is what the options come to in
exactly that context: whatever the first processor does lies between the rendering and the sending,
and so shows in a later request only.

* `Options.Renders` — a request as options come to in a context, part by part; `render_eq_ok_iff`.
* `Loop.start` — the context of the first request: the stored checkpoint over the given context.
* `Loop.Produces` — how the context after a response comes out of the one before.
* `Loop.Asks` — a trail whose requests are rendered in the first of the contexts told.
* `Loop.round_asks`, `Loop.round_produces` — one round; `Loop.finish_asks` — all that are left.
* **`Loop.requests_rendered`** — the requests of a whole run.
-/

namespace Connector

open Work Work.Leaves

/-! ## What a request is -/

/-- Some header says what a body is. -/
def NamesContentType (headers : Record String) : Prop :=
  ∃ name ∈ Record.names headers, name.toLower = "content-type"

instance (headers : Record String) : Decidable (NamesContentType headers) :=
  inferInstanceAs (Decidable (∃ name ∈ Record.names headers, name.toLower = "content-type"))

/-- **A request as options come to in a context.**  The body is the object of the rendered fields,
and what it is is said unless a rendered header says it. -/
structure Options.Renders (o : Options) (context : Context) (request : Http.Request) : Prop where
  method : request.method = o.method
  url : o.renderUrl context = .ok request.url
  content : ∃ fields own headers,
    o.renderBody context = .ok fields ∧ o.renderHeaders context = .ok own ∧
      o.authorize context own = .ok headers ∧
      request.body = (if fields = [] then none else some (Json.obj fields).compress) ∧
      request.headers =
        if fields ≠ [] ∧ ¬ NamesContentType own then
          Record.insert "Content-Type" "application/json" headers
        else headers

lemma Credentials.authorize_eq_ok {c : Credentials} {context : Context}
    {own headers : Record String} (h : c.authorize context own = .ok headers) :
    ∃ value, headers = Record.insert "Authorization" value own := by
  obtain ⟨username, -, h⟩ := exists_of_bind_eq_ok h
  obtain ⟨password, -, h⟩ := exists_of_bind_eq_ok h
  cases h
  exact ⟨_, rfl⟩

/-- The header of authentication does not say what a body is. -/
lemma Options.namesContentType_of_authorize {o : Options} {context : Context}
    {own headers : Record String} (h : o.authorize context own = .ok headers) :
    NamesContentType headers ↔ NamesContentType own := by
  rw [authorize] at h
  split at h
  · obtain ⟨value, rfl⟩ := Credentials.authorize_eq_ok h
    have differs : "Authorization".toLower ≠ "content-type" := by decide +kernel
    simp [NamesContentType, Record.mem_names_insert, differs]
  · cases h
    rfl

namespace Loop

lemma withContentType_eq (headers : Record String) :
    withContentType headers =
      if NamesContentType headers then headers
      else Record.insert "Content-Type" "application/json" headers := by
  have same : ((Record.names headers).any fun name => name.toLower = "content-type") = true
      ↔ NamesContentType headers := by
    simp [NamesContentType]
  by_cases h : NamesContentType headers
  · rw [withContentType, if_pos (same.2 h), if_pos h]
  · rw [withContentType, if_neg fun hs => h (same.1 hs), if_neg h]

/-- **Rendering comes to what the parts come to**, and to nothing else. -/
lemma render_eq_ok_iff {o : Options} {context : Context} {request : Http.Request} :
    render o context = .ok request ↔ o.Renders context request := by
  constructor
  · intro h
    obtain ⟨url, hu, h⟩ := exists_of_bind_eq_ok h
    obtain ⟨own, ho, h⟩ := exists_of_bind_eq_ok h
    obtain ⟨fields, hf, h⟩ := exists_of_bind_eq_ok h
    obtain ⟨headers, ha, h⟩ := exists_of_bind_eq_ok h
    have same := Options.namesContentType_of_authorize ha
    cases h
    rw [httpRequest]
    cases fields with
    | nil => exact ⟨rfl, hu, [], own, headers, hf, ho, ha, rfl, by simp⟩
    | cons field rest =>
        refine ⟨rfl, hu, field :: rest, own, headers, hf, ho, ha, by simp, ?_⟩
        simp only [List.isEmpty_cons, Bool.false_eq_true, if_false, withContentType_eq, same]
        by_cases hn : NamesContentType own <;> simp [hn]
  · rintro ⟨hm, hu, fields, own, headers, hf, ho, ha, hb, hh⟩
    have same := Options.namesContentType_of_authorize ha
    simp only [render, hu, ho, hf, ha, bind, Except.bind, pure, Except.pure]
    obtain ⟨method, url, all, body⟩ := request
    obtain rfl : method = o.method := hm
    obtain rfl : body = _ := hb
    obtain rfl : all = _ := hh
    rw [httpRequest]
    cases fields with
    | nil => simp
    | cons field rest =>
        simp only [List.isEmpty_cons, Bool.false_eq_true, if_false, withContentType_eq, same]
        by_cases hn : NamesContentType own <;> simp [hn]

/-- Options come to one request in a context. -/
lemma renders_unique {o : Options} {context : Context} {request other : Http.Request}
    (h : o.Renders context request) (h' : o.Renders context other) : request = other :=
  Except.ok.inj ((render_eq_ok_iff.2 h).symm.trans (render_eq_ok_iff.2 h'))

variable {l : Loop}

/-! ## The context of the first request -/

/-- What is stored for a loop, if anything is found. -/
def stored (l : Loop) (context : Context) (w : World) : Option Context := do
  let checkpoint ← l.request.checkpoint
  let store ← w.store
  let scope ← (checkpoint.renderScope context).toOption
  let saved ← (store.get scope (w.outages 0)).toOption
  saved

/-- **The context that a loop starts from**: what is found in the store lies over the given one. -/
def start (l : Loop) (context : Context) (w : World) : Context :=
  Record.overlay context ((l.stored context w).getD [])

lemma eq_start_of_resumed {context c : Context} {w : World} (h : l.resumed context w = .ok c) :
    c = l.start context w := by
  unfold resumed at h
  unfold start stored
  rcases hc : l.request.checkpoint with _ | checkpoint
  · simp only [hc] at h
    cases h
    rfl
  rcases hw : w.store with _ | store
  · simp only [hc, hw] at h
    cases h
    rfl
  · simp only [hc, hw] at h
    split at h
    · rename_i e hs
      split_ifs at h
      cases h
      simp [hs, Except.toOption, Record.overlay]
    · rename_i scope hs
      split at h
      · cases h
      · rename_i saved hg
        cases h
        cases saved <;> simp [hs, hg, Except.toOption]

/-! ## One round -/

/-- **How the context after a response comes out of the one before**: the first processor runs in
it, the response is put in, and the second processor runs. -/
def Produces (l : Loop) (functions : Registry) (context next : Context) : Prop :=
  ∃ response : Http.Response, next = (l.request.after.run functions
    (Record.insert responseKey response.toJson
      (l.request.before.run functions context).context)).context

/-- What a round has sent: nothing, or the request that the options come to. -/
def RoundAsks (l : Loop) (context : Context) (t : Trail) : Prop :=
  t.sent = [] ∨ ∃ request, l.request.options.Renders context request ∧ t.sent = [request]

lemma ready_asks (l : Loop) (context : Context) : (l.ready context).Leaves fun x t =>
    t.sent = [] ∧ ∀ y, x = .ok y → l.request.options.Renders context y.1 := by
  rw [ready]
  refine Leaves.publish_bind ?_
  rcases hr : render l.request.options context with e | request
  · exact Leaves.fail ⟨rfl, by rintro y ⟨⟩⟩
  · have renders := render_eq_ok_iff.1 hr
    rw [attempt_ok, pure_bind]
    refine Leaves.publish_bind (Leaves.bind ?_)
    refine process_leaves (fun c => ?_) (fun c => ?_) fun e => ⟨rfl, by rintro y ⟨⟩⟩
    all_goals
      refine Then.ok (Leaves.pure ⟨rfl, ?_⟩)
      rintro _ ⟨⟩
      exact renders

lemma receive_silent (l : Loop) (i : Nat) (answer : Answer) (context : Context) :
    (l.receive i answer context).Leaves fun _ t => t.sent = [] :=
  receive_leaves (fun _ _ _ => rfl) (fun _ _ _ _ _ _ _ => rfl) (fun _ _ _ _ _ _ => rfl)
    (fun _ _ _ _ _ => rfl) rfl

/-- **One round**: the context is the one before the first processor, whatever that one does. -/
lemma round_asks (l : Loop) (i : Nat) (answer : Option Answer) (context : Context) :
    (l.round i answer context).Leaves fun _ t => l.RoundAsks context t := by
  rw [round_eq]
  refine Leaves.bind ((ready_asks l context).mono ?_)
  rintro (h | x) t ⟨silent, renders⟩
  · exact .inl silent
  · have request := renders x rfl
    refine Then.ok (Leaves.checkStop_bind fun stop => ?_)
    cases stop with
    | true => exact Leaves.pure (.inl (by simpa [Trail.empty] using silent))
    | false =>
        refine Leaves.bind (send_leaves ?_ (fun e he => ?_) ?_)
        · refine Then.ok ((receive_silent l i _ x.2).mono fun r u hu => ?_)
          exact .inr ⟨x.1, request, by simp [silent, hu]⟩
        · refine Then.ok ((receive_silent l i _ x.2).mono fun r u hu => ?_)
          exact .inl (by simp [silent, hu, Trail.empty])
        · refine Then.ok ((receive_silent l i _ x.2).mono fun r u hu => ?_)
          exact .inl (by simp [silent, hu, Trail.empty])

/-- **The context after a response** comes out of the one before, and the functions stay what they
are. -/
lemma round_produces {i : Nat} {answer : Option Answer} {context c : Context} {last : Bool}
    {w u : World} (h : l.round i answer context w = (.ok (.page c last), u)) :
    l.Produces w.functions context c ∧ u.functions = w.functions := by
  have lasting := lasting_functions w.functions
  have harmony := lasting.harmony
  have kept : u.functions = w.functions := by
    have digests := lasting.digest (fun _ _ h => h) l
    have round := (Harmony.round digests harmony trivial i answer context).keeps (w := w) rfl
    rwa [h] at round
  rw [round_eq] at h
  obtain ⟨x, v, hr, h⟩ := exists_of_bind_apply h
  have readied : v.functions = w.functions := by
    have ready := (harmony.ready l context).keeps (w := w) rfl
    rwa [hr] at ready
  rw [bind_ok (checkStop_apply _ _)] at h
  split_ifs at h
  · cases h
  · obtain ⟨a, v', hs, h⟩ := exists_of_bind_apply h
    have sent : v'.functions = w.functions := by
      have sent := (harmony.send x.1 answer).keeps (w := v.look) readied
      rwa [hs] at sent
    obtain ⟨response, -, hd⟩ := receive_ok h
    have after := (digest_ok hd).1
    rw [sent, ready_ok hr] at after
    exact ⟨⟨response, after⟩, kept⟩

/-! ## All rounds -/

/-- **What the rounds from a context on have sent**: a request for each of the first of the
contexts told, the one to start from among them, and each of those contexts comes out of the one
before. -/
def Asks (l : Loop) (functions : Registry) (context : Context) (t : Trail) : Prop :=
  ∃ asked : List Context, asked.map Json.obj <+: Json.obj context :: t.pages ∧
    List.Forall₂ l.request.options.Renders asked t.sent ∧ asked.IsChain (l.Produces functions)

/-- A round that is the last one. -/
lemma Asks.of_round {functions : Registry} {context : Context} {t : Trail}
    (h : l.RoundAsks context t) : l.Asks functions context t := by
  rcases h with silent | ⟨request, renders, sent⟩
  · exact ⟨[], List.nil_prefix, silent ▸ .nil, .nil⟩
  · refine ⟨[context], ⟨t.pages, rfl⟩, sent ▸ .cons renders .nil, .singleton _⟩

/-- A round that goes on. -/
lemma Asks.cons {functions : Registry} {context next : Context} {t u : Trail}
    {request : Http.Request} (renders : l.request.options.Renders context request)
    (sent : t.sent = [request]) (told : t.pages = [.obj next])
    (produces : l.Produces functions context next) (h : l.Asks functions next u) :
    l.Asks functions context (t ++ u) := by
  obtain ⟨asked, first, rendered, chain⟩ := h
  refine ⟨context :: asked, ?_, ?_, ?_⟩
  · rw [List.map_cons, Trail.pages_append, told]
    exact (List.prefix_cons_inj _).2 first
  · rw [Trail.append_sent, sent]
    exact .cons renders rendered
  · cases asked with
    | nil => exact .singleton _
    | cons c rest =>
        obtain rfl : c = next := by
          have head := (List.cons_prefix_cons.1 first).1
          exact Json.obj.inj head
        exact chain.cons_cons produces

/-- What the rounds from a point on have sent and told, with the trail that they leave. -/
def FinishAsks (l : Loop) (p : Point) : Prop :=
  ∃ t, (l.finish p).2.trail = p.world.trail ++ t ∧ l.Asks p.world.functions p.context t

/-- Nothing comes behind the last round. -/
lemma FinishAsks.of_round {p : Point} {r : Except Halt LoopResult} {u : World} {t : Trail}
    (hf : l.finish p = (r, u)) (ht : u.trail = p.world.trail ++ t)
    (asks : l.RoundAsks p.context t) : l.FinishAsks p :=
  ⟨t, by rw [hf, ht], .of_round asks⟩

/-- A round that goes on comes before the rounds from the next point on. -/
lemma FinishAsks.of_step {p q : Point} (h : l.Step p q) (asks : l.FinishAsks q) :
    l.FinishAsks p := by
  cases h with
  | @intro n answer rest c next w u hr =>
      obtain ⟨later, hlater, asks⟩ := asks
      obtain ⟨t, ht, asked, told, left⟩ := ((round_asks l (n + 1) (some answer) c).and
        ((round_told l (n + 1) (some answer) c).and (round_leaves (n + 1) (some answer) c))) w
      obtain ⟨produces, functions⟩ := round_produces hr
      rw [hr] at ht told left
      have sent : ∃ request, l.request.options.Renders c request ∧ t.sent = [request] := by
        refine asked.resolve_left fun silent => ?_
        cases left with
        | page => cases silent
      obtain ⟨request, renders, sent⟩ := sent
      refine ⟨t ++ ({ states := [(l.token, .repeating)] } ++ later), ?_, ?_⟩
      · rw [finish_of_step (.intro hr), hlater]
        simp only [World.trail_display, ht, Trail.append_assoc]
      · have rest : l.Asks w.functions next ({ states := [(l.token, .repeating)] } ++ later) := by
          obtain ⟨asked, first, rendered, chain⟩ := asks
          exact ⟨asked, first, rendered, functions ▸ chain⟩
        exact .cons renders sent told produces rest

/-- **All rounds that are left**, by recursion on the answers still to come. -/
theorem finish_asks (l : Loop) (answers : List Answer) (n : Nat) (c : Context) (w : World) :
    l.FinishAsks ⟨n, answers, c, w⟩ := by
  induction answers generalizing n c w with
  | nil =>
      obtain ⟨t, ht, asks⟩ := round_asks l (n + 1) none c w
      rcases hr : l.round (n + 1) none c w with ⟨r, u⟩
      rw [hr] at ht
      rcases r with h | ⟨outcome, c'⟩ | ⟨c', last⟩
      · exact .of_round (finish_of_error hr) ht asks
      · exact .of_round (finish_of_ended hr) ht asks
      · exact .of_round (finish_of_last hr (.inl rfl)) ht asks
  | cons answer rest ih =>
      obtain ⟨t, ht, asks⟩ := round_asks l (n + 1) (some answer) c w
      rcases hr : l.round (n + 1) (some answer) c w with ⟨r, u⟩
      rw [hr] at ht
      rcases r with h | ⟨outcome, c'⟩ | ⟨c', _ | _⟩
      · exact .of_round (finish_of_error hr) ht asks
      · exact .of_round (finish_of_ended hr) ht asks
      · exact .of_step (.intro hr) (ih _ _ _)
      · exact .of_round (finish_of_last hr (.inr rfl)) ht asks

/-! ## A whole run -/

/-- The requests that a run sends. -/
def requests (l : Loop) (context : Context) (w : World) : List Http.Request :=
  (l.run context w).2.sent.drop w.sent.length

/-- **The contexts of a run**: the one that it starts from, and those that it tells of after the
responses. -/
def contexts (l : Loop) (context : Context) (w : World) : List Json :=
  .obj (l.start context w) :: (l.run context w).2.pages.drop w.pages.length

lemma run_asks (l : Loop) (context : Context) (w : World) : ∃ t,
    (l.run context w).2.trail = w.trail ++ t ∧
      l.Asks w.functions (l.start context w) t := by
  rcases hr : l.resumed context w with e | c
  · rw [run_of_resumed_error hr]
    exact ⟨.empty, (Trail.append_empty _).symm, [], List.nil_prefix, .nil, .nil⟩
  · rw [run_of_resumed hr, ← eq_start_of_resumed hr]
    exact finish_asks l w.answers 0 c w

/-- The requests are rendered in the first of the contexts, in order. -/
lemma requests_asked (l : Loop) (context : Context) (w : World) : ∃ asked : List Context,
    asked.map Json.obj <+: l.contexts context w ∧
      List.Forall₂ l.request.options.Renders asked (l.requests context w) ∧
      asked.IsChain (l.Produces w.functions) := by
  obtain ⟨t, ht, asked, first, rendered, chain⟩ := run_asks l context w
  have sent : l.requests context w = t.sent := by
    have all : (l.run context w).2.sent = w.sent ++ t.sent := congrArg Trail.sent ht
    rw [requests, all, List.drop_left]
  have told : l.contexts context w = .obj (l.start context w) :: t.pages := by
    rw [contexts, World.pages_of_trail ht, List.drop_left]
  exact ⟨asked, told ▸ first, sent ▸ rendered, chain⟩

/-- The context of a request is the one that is told of before it. -/
lemma renders_of_getElem? {context : Context} {w : World} {i : Nat} {request : Http.Request}
    (h : (l.requests context w)[i]? = some request) : ∃ c,
      (l.contexts context w)[i]? = some (.obj c) ∧ l.request.options.Renders c request := by
  obtain ⟨asked, ⟨behind, all⟩, rendered, -⟩ := requests_asked l context w
  obtain ⟨c, hc, renders⟩ : ∃ c, asked[i]? = some c ∧ l.request.options.Renders c request := by
    have long : i < (l.requests context w).length := (List.getElem?_eq_some_iff.1 h).1
    have long' : i < asked.length := rendered.length_eq ▸ long
    refine ⟨asked[i], List.getElem?_eq_getElem long', ?_⟩
    have here := (List.forall₂_iff_get.1 rendered).2 i long' long
    obtain ⟨-, rfl⟩ := List.getElem?_eq_some_iff.1 h
    exact here
  refine ⟨c, ?_, renders⟩
  have short : i < (asked.map Json.obj).length := by
    simpa using (List.getElem?_eq_some_iff.1 hc).1
  rw [← all, List.getElem?_append_left short, List.getElem?_map, hc]
  rfl

/-- A loop with another first processor. -/
def withBefore (l : Loop) (p : Processor) : Loop :=
  { l with request := { l.request with before := p } }

/-- **The requests of a run.**  Each one is what the options come to in the context that the run has
told of last, or in the one that it starts from, and each of these contexts comes out of the one
before by what both processors do.  What the first processor does shows in later requests only:
whatever another one would do in its place, and in whatever world, the request that is sent in
the same context is the same. -/
theorem requests_rendered (l : Loop) (context : Context) (w : World) :
    (∃ asked : List Context, asked.map Json.obj <+: l.contexts context w ∧
      List.Forall₂ l.request.options.Renders asked (l.requests context w) ∧
      asked.IsChain (l.Produces w.functions)) ∧
    ∀ (p : Processor) (context' : Context) (w' : World) (i : Nat) (request other : Http.Request),
      (l.requests context w)[i]? = some request →
      ((l.withBefore p).requests context' w')[i]? = some other →
      (l.contexts context w)[i]? = ((l.withBefore p).contexts context' w')[i]? →
      request = other := by
  refine ⟨requests_asked l context w, fun p context' w' i request other hr ho same => ?_⟩
  obtain ⟨c, hc, renders⟩ := renders_of_getElem? hr
  obtain ⟨c', hc', renders'⟩ := renders_of_getElem? ho
  obtain rfl : c = c' := by
    rw [hc, hc'] at same
    exact Json.obj.inj (Option.some.inj same)
  exact renders_unique renders renders'

end Loop

end Connector
