import Connector.Http.Client
import Connector.Job.Request
import Connector.Log
import Connector.Scheduler

/-!
# The engine

An engine is a loaded connector.  A run starts its requests one after the other, each in the
context that the one before has left, and then hands all jobs to the scheduler.

* `Engine.load` — load a definition.
* `Engine.run` — one run, and `EngineReport` what it came to.
* `EngineError` — what keeps an engine from being loaded or run.

A stop lets the job that is running end and keeps everything behind it from starting.
-/

namespace Connector

/-- **What keeps an engine from being loaded or run.** -/
inductive EngineError where
  /-- There is nothing to run. -/
  | emptyConnector
  | unknownLevel (text : String)
  /-- A request or job cannot be loaded. -/
  | load (name : String) (e : RunError)
  /-- There is no client for the proxy settings. -/
  | client (e : HttpError)
  /-- A request failed, and those behind it were not started. -/
  | job (name : String) (e : RunError)

/-- The message of an error. -/
def EngineError.message : EngineError → String
  | .emptyConnector => "invalid connector: connector defines no requests and no jobs"
  | .unknownLevel text => "unknown log level: " ++ text
  | .load name e => "failed to load '" ++ name ++ "': " ++ e.message
  | .client e => "failed to build http client: " ++ e.message
  | .job name e => "request '" ++ name ++ "' failed: " ++ e.message

/-- A loaded job: its name and its stages. -/
structure LoadedJob where
  name : String
  stages : List Stage

/-- **A loaded connector**, with the context that every run starts from. -/
structure Engine where
  requests : List Request
  jobs : List LoadedJob
  level : LogLevel
  proxy : Option Proxy
  context : Context

/-- **What a run of an engine came to.** -/
structure EngineReport where
  /-- The reports of the requests that ran, in order. -/
  requests : List JobReport
  /-- The report of the jobs, if there are any and they ran. -/
  jobs : Option SchedulerReport
  /-- The context as the last request left it. -/
  context : Context
  stopped : Bool

namespace Engine

/-- The proxy of a definition. -/
def proxyOf (p : Definition.Proxy) : Proxy :=
  ⟨Text.lower (Text.trim p.scheme), p.host, p.port.toNat, p.username, p.password,
    p.resolvesRemotely⟩

/-- Load requests, which are numbered from `index` on. -/
def loadRequests (index : Nat) : List Definition.Request → Except EngineError (List Request)
  | [] => .ok []
  | r :: rest =>
    match r.load index with
    | .error e => .error (.load (r.effectiveName index) e)
    | .ok request => (loadRequests (index + 1) rest).map (request :: ·)

/-- Load jobs. -/
def loadJobs : List Definition.Job → Except EngineError (List LoadedJob)
  | [] => .ok []
  | j :: rest =>
    match j.load with
    | .error e => .error (.load j.name e)
    | .ok stages => (loadJobs rest).map (⟨j.name, stages⟩ :: ·)

/-- **Load a definition.** -/
def load (d : Definition) (context : Context) : Except EngineError Engine :=
  if d.requests.isEmpty && d.jobs.isEmpty then .error .emptyConnector
  else
    match LogLevel.ofText? d.settings.logging.level with
    | none => .error (.unknownLevel d.settings.logging.level)
    | some level => do
      let requests ← loadRequests 0 d.requests
      let jobs ← loadJobs d.jobs
      let proxy := (d.settings.proxy.filter (·.enabled)).map proxyOf
      pure ⟨requests, jobs, level, proxy, context⟩

/-- The names of the requests. -/
def requestNames (e : Engine) : List String := e.requests.map (·.name)

/-- The names of the jobs. -/
def jobNames (e : Engine) : List String := e.jobs.map (·.name)

/-- Whether a client can be built for the proxy. -/
def checkProxy (e : Engine) : Except EngineError Unit :=
  match e.proxy with
  | some p => if p.isUsable then .ok () else .error (.client .invalidProxy)
  | none => .ok ()

/-! ## Running

The tokens of a run are all new: the children of the run's own token, one for every request and
every job. -/

/-- What running the requests came to: their reports and the context, and whether a stop kept one
of them from starting. -/
structure RequestRun where
  reports : List JobReport
  context : Context
  cut : Bool

/-- **Run requests** one after the other; `index` numbers their tokens. -/
def runRequests (stop run : Token) :
    Nat → List Request → Context → Work (Except EngineError RequestRun)
  | _, [], context => return .ok ⟨[], context, false⟩
  | index, request :: rest, context => do
    if ← checkStop stop then return .ok ⟨[], context, true⟩
    else
      match ← settle (RequestJob.run ⟨request, context, run.child index⟩) with
      | .error e => return .error (.job request.name e)
      | .ok report =>
        match ← runRequests stop run (index + 1) rest report.context with
        | .error e => return .error e
        | .ok later => return .ok { later with reports := report :: later.reports }

/-- The jobs with their tokens, numbered from `index` on. -/
def forkingJobs (run : Token) (context : Context) : Nat → List LoadedJob → List ForkingJob
  | _, [] => []
  | index, job :: rest =>
    ⟨job.name, context, job.stages, run.child index⟩ :: forkingJobs run context (index + 1) rest

/-- The jobs under the scheduler, which a stop of the engine keeps from starting. -/
def runJobs (e : Engine) (stop run : Token) (context : Context) : Work SchedulerReport :=
  let queue := forkingJobs run context (e.requests.length + 1) e.jobs
  Scheduler.run ⟨run.child 0, some stop, none⟩ queue

/-- **Run an engine.**  `stop` is the token of the engine, `run` that of this run. -/
def run (e : Engine) (stop run : Token) : Work (Except EngineError EngineReport) := do
  match ← runRequests stop run 1 e.requests e.context with
  | .error error => return .error error
  | .ok requests =>
    if requests.cut then return .ok ⟨requests.reports, none, requests.context, true⟩
    else if e.jobs.isEmpty then
      return .ok ⟨requests.reports, none, requests.context, ← checkStop stop⟩
    else if ← checkStop stop then
      return .ok ⟨requests.reports, none, requests.context, true⟩
    else
      let jobs ← e.runJobs stop run requests.context
      let stopped ← checkStop stop
      return .ok ⟨requests.reports, some jobs, requests.context, stopped || jobs.cancelled⟩

end Engine

end Connector
