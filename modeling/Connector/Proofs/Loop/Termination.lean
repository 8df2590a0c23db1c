import Connector.Proofs.Loop.Resume
import Connector.Proofs.Wire

/-!
# Loops that come to an end

A loop goes round after round, and nothing bounds the number of its rounds but the answers that it
gets.  The answers of a world are finitely many, and behind them there are only empty bodies, which
end every loop.  So a loop takes an answer for every request that it sends, but perhaps for the last
one.

* `Loop.Repeats` — round after round, without a bound; `Loop.repeats_iff` — there is no other way
  through the rounds.
* `World.Responsive` — a world in which every request is answered.
* `World.Spends`, `Ends` — what is sent beyond the answers that are taken.
* `Loop.round_ends`, `Loop.Repeats.ends` — one round, and any number of them.
* `Loop.Start` — a loop that is started; **`Loop.Start.ends`** — it comes to an end.
-/

namespace Connector

open Work

namespace Loop

variable {l : Loop} {i n : Nat} {answer : Option Answer} {c c' : Context} {w u v : World}
  {out : Except Halt LoopResult × World}

/-! ## What a round sends -/

/-- Where there is no network, no request gets a response. -/
lemma send_of_absent (hn : w.network = .absent) (request : Http.Request)
    (answer : Option Answer) : ∃ given, send request answer w = (.ok given, w) ∧
      ∀ r, given ≠ .response r := by
  rw [send, bind_ok (get_apply w), hn]
  rcases request.refusal? with _ | e
  · exact ⟨.silence, rfl, by rintro r ⟨⟩⟩
  · exact ⟨.refusal e, rfl, by rintro r ⟨⟩⟩

/-- **A round where there is a network**: it ends before its request, or its request takes an
answer. -/
lemma round_of_scripted (hn : w.network = .scripted) (i : Nat) (answer : Option Answer)
    (c : Context) :
    (∃ r v, l.round i answer c w = (r, v) ∧ v.wire = w.wire ∧ r ≠ .error .hung ∧
      ∀ c' last, r ≠ .ok (.page c' last)) ∨
      ∃ request c' v, v.wire = ⟨.scripted, w.answers.drop 1, w.sent ++ [request]⟩ ∧
        l.round i answer c w = l.receive i (answer.getD lastAnswer) c' v := by
  obtain ⟨ends, kept⟩ := l.ready_quiet c w
  rcases hr : l.ready c w with ⟨h | x, v⟩ <;> rw [hr] at ends kept
  · refine .inl ⟨_, v, round_of_ready_error hr, kept, ?_, nofun⟩
    rintro ⟨⟩
    exact ends rfl
  · cases hs : v.look.isStopRequested l.token with
    | true => exact .inl ⟨_, v.look, round_of_stopped hr hs, kept, nofun, nofun⟩
    | false =>
        have network : v.network = .scripted := (congrArg Wire.network kept).trans hn
        have answers : v.answers = w.answers := congrArg Wire.answers kept
        have sent : v.sent = w.sent := congrArg Wire.sent kept
        refine .inr ⟨x.1, x.2, v.look.exchange x.1, ?_, round_of_running hr hs network⟩
        rw [World.wire_exchange, ← answers, ← sent, ← network]
        rfl

/-- **A page is the response to a request**, and the script had an answer to it. -/
lemma round_page {last : Bool} (h : l.round i answer c w = (.ok (.page c' last), u)) :
    answer ≠ none ∧ ∃ request, u.wire = ⟨.scripted, w.answers.drop 1, w.sent ++ [request]⟩ := by
  cases hn : w.network with
  | scripted =>
      obtain ⟨r, v, hr, -, -, none⟩ | ⟨request, context, v, taken, hr⟩ :=
        round_of_scripted (l := l) hn i answer c
      · cases h.symm.trans hr
        exact absurd rfl (none c' last)
      · rw [hr] at h
        obtain ⟨r, given, hd⟩ := receive_ok h
        have kept := (l.digest_quiet i r context v).2
        rw [hd] at kept
        refine ⟨?_, request, kept.trans taken⟩
        -- the answer behind the script is an empty body, which is no page
        rintro rfl
        cases h
  | absent =>
      exfalso
      obtain ⟨-, kept⟩ := l.ready_quiet c w
      rcases hr : l.ready c w with ⟨e | x, v⟩ <;> rw [hr] at kept
      · cases h.symm.trans (round_of_ready_error hr)
      · cases hs : v.look.isStopRequested l.token with
        | true => cases h.symm.trans (round_of_stopped hr hs)
        | false =>
            have network : v.look.network = .absent := (congrArg Wire.network kept).trans hn
            obtain ⟨given, hg, none⟩ := send_of_absent network x.1 answer
            rw [round_eq, bind_ok hr, bind_ok (checkStop_apply _ _), hs,
              if_neg Bool.false_ne_true, bind_ok hg] at h
            obtain ⟨r, response, -⟩ := receive_ok h
            exact none r response

/-! ## Round after round -/

/-- **Round after round**, however many there are.  Every request gets the next answer of the
world, and an empty body when there is none left. -/
inductive Repeats (l : Loop) :
    Nat → Context → World → Except Halt LoopResult × World → Prop where
  | halts {n : Nat} {c : Context} {w u : World} {h : Halt}
      (hr : l.round (n + 1) w.answers.head? c w = (.error h, u)) : Repeats l n c w (.error h, u)
  | ended {n : Nat} {c c' : Context} {w u : World} {outcome : LoopOutcome}
      (hr : l.round (n + 1) w.answers.head? c w = (.ok (.ended outcome c'), u)) :
      Repeats l n c w (.ok ⟨outcome, c', []⟩, u)
  | last {n : Nat} {c c' : Context} {w u : World}
      (hr : l.round (n + 1) w.answers.head? c w = (.ok (.page c' true), u)) :
      Repeats l n c w (.ok ⟨.stopConditionMet, c', [c']⟩, u)
  | again {n : Nat} {c c' : Context} {w u v : World} {r : Except Halt LoopResult}
      (hr : l.round (n + 1) w.answers.head? c w = (.ok (.page c' false), u))
      (hl : Repeats l (n + 1) c' (u.display l.token .repeating) (r, v)) :
      Repeats l n c w (r.map (·.withPage c'), v)

/-- There is one way to go round after round. -/
lemma Repeats.unique {out' : Except Halt LoopResult × World} (h : l.Repeats n c w out)
    (h' : l.Repeats n c w out') : out = out' := by
  induction h generalizing out' with
  | halts hr => cases h' with
    | halts hr' => cases hr.symm.trans hr'; rfl
    | ended hr' => cases hr.symm.trans hr'
    | last hr' => cases hr.symm.trans hr'
    | again hr' hl' => cases hr.symm.trans hr'
  | ended hr => cases h' with
    | halts hr' => cases hr.symm.trans hr'
    | ended hr' => cases hr.symm.trans hr'; rfl
    | last hr' => cases hr.symm.trans hr'
    | again hr' hl' => cases hr.symm.trans hr'
  | last hr => cases h' with
    | halts hr' => cases hr.symm.trans hr'
    | ended hr' => cases hr.symm.trans hr'
    | last hr' => cases hr.symm.trans hr'; rfl
    | again hr' hl' => cases hr.symm.trans hr'
  | again hr hl ih => cases h' with
    | halts hr' => cases hr.symm.trans hr'
    | ended hr' => cases hr.symm.trans hr'
    | last hr' => cases hr.symm.trans hr'
    | again hr' hl' =>
        cases hr.symm.trans hr'
        cases ih hl'
        rfl

/-- **The rounds of a loop**, by recursion on the answers: a round that goes on has taken one. -/
lemma repeats_finish : ∀ (answers : List Answer) (n : Nat) (c : Context) (w : World),
    w.answers = answers → l.Repeats n c w (l.finish ⟨n, answers, c, w⟩) := by
  intro answers
  induction answers with
  | nil =>
      intro n c w ha
      rcases hr : l.round (n + 1) [].head? c w with ⟨h | ⟨outcome, c'⟩ | ⟨c', last⟩, u⟩
      · rw [finish_of_error hr]
        exact .halts (by rwa [ha])
      · rw [finish_of_ended hr]
        exact .ended (by rwa [ha])
      · exact absurd rfl (round_page hr).1
  | cons answer rest ih =>
      intro n c w ha
      rcases hr : l.round (n + 1) (answer :: rest).head? c w with
        ⟨h | ⟨outcome, c'⟩ | ⟨c', _ | _⟩, u⟩
      · rw [finish_of_error hr]
        exact .halts (by rwa [ha])
      · rw [finish_of_ended hr]
        exact .ended (by rwa [ha])
      · obtain ⟨-, request, taken⟩ := round_page hr
        have left : (u.display l.token .repeating).answers = rest := by
          have drop : u.answers = w.answers.drop 1 := congrArg Wire.answers taken
          show u.answers = rest
          rw [drop, ha]
          rfl
        rw [finish_of_step (.intro hr)]
        exact .again (by rwa [ha]) (ih (n + 1) c' _ left)
      · rw [finish_of_last hr (.inr rfl)]
        exact .last (by rwa [ha])

/-- **The rounds of a loop are not bounded by anything but the answers**: in every world they are
what going round after round without a bound comes to. -/
theorem repeats_iff : l.Repeats n c w out ↔ l.finish ⟨n, w.answers, c, w⟩ = out := by
  have rounds := l.repeats_finish w.answers n c w rfl
  exact ⟨fun h => rounds.unique h, fun h => h ▸ rounds⟩

end Loop

/-! ## What is sent beyond the answers -/

/-- **A world in which every request is answered.** -/
structure World.Responsive (w : World) : Prop where
  scripted : w.network = .scripted
  answered : Answer.silence ∉ w.answers

/-- The requests that were sent and the answers that are still to come. -/
def World.traffic (w : World) : Nat := w.sent.length + w.answers.length

/-- **One world after another**: every request is answered in the later one too, and at most `n`
requests were sent beyond the answers that were taken. -/
structure World.Spends (w : World) (n : Nat) (u : World) : Prop where
  responsive : u.Responsive
  traffic : u.traffic ≤ w.traffic + n

/-- **Work that comes to an end**, after at most `n` requests beyond the answers that it takes. -/
structure Ends {α : Type} (w : World) (n : Nat) (out : Except Halt α × World) : Prop where
  comes : out.1 ≠ .error .hung
  spends : w.Spends n out.2

section Ends

variable {α β : Type} {m n : Nat} {w u v : World}

/-- All that matters is the network's side. -/
lemma World.Responsive.of_wire (h : w.Responsive) (hu : u.wire = w.wire) : u.Responsive := by
  have answers : u.answers = w.answers := congrArg Wire.answers hu
  exact ⟨(congrArg Wire.network hu).trans h.scripted, answers ▸ h.answered⟩

lemma World.traffic_of_wire (hu : u.wire = w.wire) : u.traffic = w.traffic :=
  congrArg (fun wire : Wire => wire.sent.length + wire.answers.length) hu

namespace World.Spends

lemma of_wire (h : w.Responsive) (hu : u.wire = w.wire) : w.Spends 0 u :=
  ⟨h.of_wire hu, (traffic_of_wire hu).le⟩

lemma trans (h : w.Spends m u) (h' : u.Spends n v) : w.Spends (m + n) v :=
  ⟨h'.responsive, by have := h.traffic; have := h'.traffic; omega⟩

/-- What the network does not see costs nothing. -/
lemma to_wire (h : w.Spends n u) (hv : v.wire = u.wire) : w.Spends n v :=
  h.trans (of_wire h.responsive hv)

lemma mono (h : w.Spends m u) (hn : m ≤ n) : w.Spends n u :=
  ⟨h.responsive, by have := h.traffic; omega⟩

/-- A request takes an answer as long as there is one. -/
lemma of_request (h : w.Responsive) {request : Http.Request}
    (hu : u.wire = ⟨.scripted, w.answers.drop 1, w.sent ++ [request]⟩) :
    w.Spends 1 u ∧ (w.answers ≠ [] → w.Spends 0 u) := by
  have answers : u.answers = w.answers.drop 1 := congrArg Wire.answers hu
  have sent : u.sent = w.sent ++ [request] := congrArg Wire.sent hu
  have responsive : u.Responsive := by
    refine ⟨congrArg Wire.network hu, fun silent => h.answered ?_⟩
    rw [answers] at silent
    exact List.mem_of_mem_drop silent
  have traffic : u.traffic = w.sent.length + 1 + (w.answers.length - 1) := by
    rw [World.traffic, sent, answers, List.length_append, List.length_drop]
    rfl
  refine ⟨⟨responsive, ?_⟩, fun some => ⟨responsive, ?_⟩⟩
  · rw [traffic, World.traffic]
    omega
  · have := List.length_pos_of_ne_nil some
    rw [traffic, World.traffic]
    omega

end World.Spends

namespace Ends

/-- Quiet work sends nothing. -/
lemma of_quiet {x : Work α} (hx : Quiet x) (hw : w.Responsive) : Ends w 0 (x w) :=
  ⟨(hx w).1, .of_wire hw (hx w).2⟩

/-- Work that is done later. -/
lemma after {out : Except Halt α × World} (h : Ends u n out) (hu : w.Spends m u) :
    Ends w (m + n) out :=
  ⟨h.comes, hu.trans h.spends⟩

/-- The network does not see where work starts. -/
lemma of_start {out : Except Halt α × World} (h : Ends u n out) (hu : u.wire = w.wire) :
    Ends w n out :=
  ⟨h.comes, h.spends.responsive, World.traffic_of_wire hu ▸ h.spends.traffic⟩

/-- **One step after the other.** -/
protected lemma bind {x : Work α} {f : α → Work β} (hx : Ends w m (x w))
    (hf : ∀ a u, x w = (.ok a, u) → u.Responsive → Ends u n (f a u)) :
    Ends w (m + n) ((x >>= f) w) := by
  rcases hw : x w with ⟨h | a, u⟩
  · rw [bind_error hw]
    rw [hw] at hx
    refine ⟨?_, hx.spends.mono (Nat.le_add_right m n)⟩
    rintro ⟨⟩
    exact hx.comes rfl
  · rw [bind_ok hw]
    rw [hw] at hx
    exact (hf a u hw hx.spends.responsive).after hx.spends

/-- Quiet work last. -/
lemma bind_quiet {x : Work α} {f : α → Work β} (hx : Ends w n (x w)) (hf : ∀ a, Quiet (f a)) :
    Ends w n ((x >>= f) w) :=
  hx.bind fun a _ _ hu => of_quiet (hf a) hu

/-- What halts work and is not its result halts other work as well. -/
lemma error {h : Halt} (hx : Ends w n ((.error h, u) : Except Halt α × World)) :
    Ends w n ((.error h, u) : Except Halt β × World) := by
  refine ⟨?_, hx.spends⟩
  rintro ⟨⟩
  exact hx.comes rfl

/-- Work with a result ends. -/
lemma ok (h : w.Spends n u) (a : α) : Ends w n (.ok a, u) := ⟨nofun, h⟩

end Ends

end Ends

namespace Loop

variable {l : Loop} {n : Nat} {c : Context} {w : World} {out : Except Halt LoopResult × World}

/-! ## Rounds -/

/-- **A round sends one request at most.** -/
lemma round_ends (hw : w.Responsive) (i : Nat) (c : Context) :
    Ends w 1 (l.round i w.answers.head? c w) := by
  obtain ⟨r, v, hr, kept, comes, -⟩ | ⟨request, c', v, taken, hr⟩ :=
    round_of_scripted (l := l) hw.scripted i w.answers.head? c
  · rw [hr]
    exact ⟨comes, (World.Spends.of_wire hw kept).mono (Nat.zero_le 1)⟩
  · rw [hr]
    have spends := (World.Spends.of_request hw taken).1
    have given : w.answers.head?.getD lastAnswer ≠ .silence := by
      rcases ha : w.answers with _ | ⟨answer, rest⟩
      · exact nofun
      · rintro rfl
        exact hw.answered (ha ▸ List.mem_cons_self ..)
    exact (Ends.of_quiet (l.receive_quiet i given c') spends.responsive).after spends

/-- **Any number of rounds send one request at most beyond the answers that they take**: a round
that goes on has taken one. -/
theorem Repeats.ends (h : l.Repeats n c w out) (hw : w.Responsive) : Ends w 1 out := by
  induction h with
  | @halts n c w u h hr =>
      have round := round_ends (l := l) hw (n + 1) c
      rw [hr] at round
      exact round.error
  | @ended n c c' w u outcome hr =>
      have round := round_ends (l := l) hw (n + 1) c
      rw [hr] at round
      exact .ok round.spends _
  | @last n c c' w u hr =>
      have round := round_ends (l := l) hw (n + 1) c
      rw [hr] at round
      exact .ok round.spends _
  | @again n c c' w u v r hr hl ih =>
      obtain ⟨some, request, taken⟩ := round_page hr
      have answers : w.answers ≠ [] := by simpa using some
      have shown : (u.display l.token .repeating).wire = _ := taken
      have spends := (World.Spends.of_request hw shown).2 answers
      have rest := (ih spends.responsive).after spends
      refine ⟨fun hung => rest.comes ?_, rest.spends⟩
      rcases r with h | r
      · exact hung
      · cases hung

/-! ## Loops that are started -/

/-- **A loop that is started** in a context and in a world. -/
structure Start where
  loop : Loop
  context : Context
  world : World

namespace Start

/-- **To go through a loop that is started**: its checkpoint is laid over the context, and then
there is round after round. -/
def GoesThrough (s : Start) (out : Except Halt LoopResult × World) : Prop :=
  match s.loop.resumed s.context s.world with
  | .error e => out = (.error (.failed e), s.world)
  | .ok c => s.loop.Repeats 0 c s.world out

/-- What a loop comes to is what going through it comes to. -/
lemma goesThrough_run (s : Start) : s.GoesThrough (s.loop.run s.context s.world) := by
  rw [GoesThrough]
  rcases hr : s.loop.resumed s.context s.world with e | c
  · exact run_of_resumed_error hr
  · rw [run_of_resumed hr]
    exact repeats_iff.2 rfl

/-- **A loop that comes to an end**, with a result or with an error, after finitely many rounds. -/
def ComesToEnd (s : Start) : Prop :=
  ∃ r u, s.GoesThrough (r, u) ∧ s.loop.run s.context s.world = (r, u) ∧ r ≠ .error .hung

/-- **A loop sends one request at most beyond the answers that it takes.** -/
theorem ends (s : Start) (hw : s.world.Responsive) :
    Ends s.world 1 (s.loop.run s.context s.world) := by
  have goes := s.goesThrough_run
  rw [GoesThrough] at goes
  rcases hr : s.loop.resumed s.context s.world with e | c <;> rw [hr] at goes
  · rw [goes]
    exact ⟨nofun, hw, Nat.le_add_right _ _⟩
  · exact goes.ends hw

/-- **Where every request is answered, every loop comes to an end.** -/
theorem comesToEnd (s : Start) (hw : s.world.Responsive) : s.ComesToEnd :=
  ⟨_, _, s.goesThrough_run, rfl, (s.ends hw).comes⟩

end Start

end Loop

end Connector
