import Connector.World

/-!
# Request loops

A request is sent again and again.  Before it is sent, its options are rendered and a processor
prepares the context; after its response another processor takes out what is needed and a
checkpoint is written.  The loop ends when the repetition says so, when there is no more data, when
a stop was asked for, or with an error.

* `Loop.resume` — the stored checkpoint is laid over the context.
* `Loop.ready`, `Loop.prepare` — everything before the request is sent, without and with the look
  for a stop, which is the only one of a loop.
* `Loop.digest` — everything after a response.
* `Loop.run` — the whole loop, with the context after every response.
-/

namespace Connector

/-- **How a loop ends** when it does not fail. -/
inductive LoopOutcome where
  | stopConditionMet
  | notFound
  | emptyBody
  | cancelled
  deriving DecidableEq

/-- The name of an outcome. -/
def LoopOutcome.name : LoopOutcome → String
  | .stopConditionMet => "stop_condition_met"
  | .notFound => "not_found"
  | .emptyBody => "empty_body"
  | .cancelled => "cancelled"

/-- **A loop**: a request run under the name of a job, with the token that stops it. -/
structure Loop where
  job : String
  request : Request
  token : Token

/-- **What a loop came to**: its outcome, the context as it was left, and the context after every
processed response. -/
structure LoopResult where
  outcome : LoopOutcome
  context : Context
  pages : List Context

/-- How many responses were processed. -/
def LoopResult.iterations (r : LoopResult) : Nat := r.pages.length

/-- The result of a loop with a page in front of its others. -/
def LoopResult.withPage (context : Context) (r : LoopResult) : LoopResult :=
  { r with pages := context :: r.pages }

/-- The variable that holds the latest response. -/
def responseKey : String := "__response__"

namespace Loop

/-- Run a processor; it is told when it was skipped. -/
def process (l : Loop) (p : Processor) (context : Context) : Work Context := do
  let result := p.run (← get).functions context
  say result.printed
  match result.outcome with
  | .error e => fail e
  | .ok .skipped =>
    emit (.processorSkipped l.job p.label)
    return result.context
  | .ok (.ran _) => return result.context

/-- **Lay the stored checkpoint over the context.**  A namespace that lacks a variable means that
nothing is stored yet. -/
def resume (l : Loop) (context : Context) : Work Context := do
  let w ← get
  match l.request.checkpoint, w.store with
  | some checkpoint, some store =>
    match checkpoint.renderScope context with
    | .error e => if e.isMissingVariable then return context else fail e
    | .ok scope =>
      match store.get scope (w.outages 0) with
      | .error e => fail (.store e)
      | .ok (some saved) => return Record.overlay context saved
      | .ok none => return context
  | _, _ => return context

/-- The header that says what a body is, unless there is one already. -/
def withContentType (headers : Record String) : Record String :=
  if (Record.names headers).any fun name => name.toLower = "content-type" then headers
  else Record.insert "Content-Type" "application/json" headers

/-- The request of rendered options; without body fields there is no body. -/
def httpRequest (method url : String) (headers : Record String) (body : Context) : Http.Request :=
  if body.isEmpty then ⟨method, url, headers, none⟩
  else ⟨method, url, withContentType headers, some (Json.obj body).compress⟩

/-- **Everything that options come to in a context.** -/
def render (o : Options) (context : Context) : Except RunError Http.Request := do
  let url ← o.renderUrl context
  let headers ← o.renderHeaders context
  let body ← o.renderBody context
  let headers ← o.authorize context headers
  pure (httpRequest o.method url headers body)

/-- **Make a request ready**: render it, then run the first processor.  What that one does has no
influence on the request. -/
def ready (l : Loop) (context : Context) : Work (Http.Request × Context) := do
  publish l.token .running
  let request ← attempt (render l.request.options context)
  publish l.token .processing
  let context ← l.process l.request.before context
  return (request, context)

/-- **What comes before a request is sent**: the request, or nothing when a stop was asked for. -/
def prepare (l : Loop) (context : Context) : Work (Option Http.Request × Context) := do
  let (request, context) ← l.ready context
  if ← checkStop l.token then return (none, context) else return (some request, context)

/-- Write the checkpoint, if there is one. -/
def writeCheckpoint (l : Loop) (context : Context) : Work Unit := do
  match l.request.checkpoint with
  | none => return
  | some checkpoint =>
    let scope ← attempt (checkpoint.renderScope context)
    let content ← attempt (checkpoint.renderContent context)
    let w ← get
    match w.store with
    | none => pure ()
    | some store =>
      match store.set scope content (w.outages 0) with
      | .error e => fail (.store e)
      | .ok store => modify (World.keep store)
    emit (.checkpointWritten l.job scope (.obj content))

/-- **What comes after a response**: the context, and whether the loop is to stop.  `iteration`
counts the responses, this one among them. -/
def digest (l : Loop) (iteration : Nat) (response : Http.Response) (context : Context) :
    Work (Context × Bool) := do
  publish l.token .processing
  let context ← l.process l.request.after (Record.insert responseKey response.toJson context)
  l.writeCheckpoint context
  emit (.iterationCompleted l.job iteration (.obj context))
  let (stop, printed) := l.request.repetition.shouldStop (← get).functions context
  say printed
  let stop ← attempt stop
  return (context, stop)

/-- **One round**: a loop ends in it or goes on with a new context. -/
inductive Round where
  | ended (outcome : LoopOutcome) (context : Context)
  | page (context : Context) (last : Bool)

/-- What an answer means for the loop. -/
def receive (l : Loop) (iteration : Nat) (answer : Answer) (context : Context) : Work Round := do
  match answer with
  | .silence => throw .hung
  | .refusal e => if e.isNotFound then return .ended .notFound context else fail (.http e)
  | .response r =>
    if r.body.isEmpty then return .ended .emptyBody context
    else
      let (context, stop) ← l.digest iteration r context
      return .page context stop

/-- The answer to a request that no answer is left for. -/
def lastAnswer : Answer := .response ⟨200, [], ""⟩

/-- **Send a request**, whose answer is the next one of the script.  Where there is no network, a
request is refused or not answered at all. -/
def send (request : Http.Request) (answer : Option Answer) : Work Answer := do
  match (← get).network with
  | .absent =>
    match request.refusal? with
    | some e => return .refusal e
    | none => return .silence
  | .scripted =>
    modify (World.exchange request)
    return answer.getD lastAnswer

/-- One round, whose request gets the given answer if it is sent. -/
def round (l : Loop) (iteration : Nat) (answer : Option Answer) (context : Context) :
    Work Round := do
  match ← l.prepare context with
  | (none, context) => return .ended .cancelled context
  | (some request, context) =>
    let answer ← send request answer
    l.receive iteration answer context

/-- **All rounds.**  Every round but the last one takes an answer from the script, so their number
is bounded by the number of answers. -/
def rounds (l : Loop) : List Answer → Nat → Context → Work LoopResult
  | [], n, context => do
    match ← l.round (n + 1) none context with
    | .ended outcome context => return ⟨outcome, context, []⟩
    | .page context _ => return ⟨.stopConditionMet, context, [context]⟩
  | answer :: rest, n, context => do
    match ← l.round (n + 1) (some answer) context with
    | .ended outcome context => return ⟨outcome, context, []⟩
    | .page context true => return ⟨.stopConditionMet, context, [context]⟩
    | .page context false =>
      publish l.token .repeating
      return (← l.rounds rest (n + 1) context).withPage context

/-- **Run a loop** in a context. -/
def run (l : Loop) (context : Context) : Work LoopResult := do
  let context ← l.resume context
  l.rounds (← get).answers 0 context

end Loop

end Connector
