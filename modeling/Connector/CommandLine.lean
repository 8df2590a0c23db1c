import Connector.Builtins
import Connector.Definition.Reader
import Connector.Engine

/-!
# The command line

The program runs the connector of a definition file, or checks the file and says what it defines.
What the arguments ask for is one value, and what comes of it is a function of the content of the
file and of the standard input.

* `Command` — what the arguments ask for; `Command.ofArguments?` reads them.
* `Topic.help` — the help on the program or on one of its commands.
* `Command.perform` — the `Outcome` of a command: what is printed, what is noted on the error
  stream, and the exit code.
-/

namespace Connector

/-- The name of the program. -/
def programName : String := "cloudconnect"

/-- The version of the program. -/
def programVersion : String := "0.0.1-alpha.0"

/-- **What there is help on.** -/
inductive Topic where
  | program
  | run
  | check
  | help
  deriving DecidableEq

/-- **What the arguments ask for.** -/
inductive Command where
  /-- Nothing was asked for. -/
  | overview
  | version
  | help (topic : Topic)
  | run (path : String)
  | check (path : String)
  deriving DecidableEq

/-! ## Help -/

namespace Topic

/-- What a command does, in one line. -/
def about : Topic → String
  | program => "CloudConnect - run templated HTTP connectors"
  | run => "Run a connector. The initial context is read from stdin as JSON"
  | check => "Load a connector and report what it defines, without running it"
  | help => "Print this message or the help of the given subcommand(s)"

/-- How a command is called. -/
def usage : Topic → String
  | program => programName ++ " [COMMAND]"
  | run => programName ++ " run <CONNECTOR_FILE>"
  | check => programName ++ " check <CONNECTOR_FILE>"
  | help => programName ++ " help [COMMAND]..."

/-- A heading and rows of two columns under it; the first column has a width. -/
def table (heading : String) (width : Nat) (rows : List (String × String)) : String :=
  "\n" ++ heading ++ ":\n" ++ String.join (rows.map fun (name, text) =>
    "  " ++ name ++ String.ofList (List.replicate (width - name.length) ' ') ++ "  " ++ text ++ "\n")

/-- The path of the definition file. -/
def fileTable : String :=
  table "Arguments" 16 [("<CONNECTOR_FILE>", "Path to the connector file (JSON)")]

/-- The one option that every command has. -/
def helpTable : String := table "Options" 10 [("-h, --help", "Print help")]

/-- The tables of a topic. -/
def tables : Topic → String
  | program =>
    table "Commands" 5 [("run", run.about), ("check", check.about), ("help", help.about)]
      ++ table "Options" 13 [("-h, --help", "Print help"), ("-V, --version", "Print version")]
  | run => fileTable ++ helpTable
  | check => fileTable ++ helpTable
  | help => table "Arguments" 12 [("[COMMAND]...", "Print help for the subcommand(s)")]

/-- **The help on a topic.** -/
def text (t : Topic) : String := t.about ++ "\n\nUsage: " ++ t.usage ++ "\n" ++ t.tables

/-- The topic that the words behind `help` name. -/
def ofWords? : List String → Option Topic
  | [] => some program
  | ["run"] => some run
  | ["check"] => some check
  | ["help"] => some help
  | _ => none

end Topic

/-! ## Arguments -/

namespace Command

/-- What an argument that starts with a minus sign asks for.  Short options may stand side by
side, and the first of them acts at once. -/
def ofOption? (topic : Topic) (arg : String) : Option Command :=
  match arg.toList with
  | ['-', '-', 'h', 'e', 'l', 'p'] => some (.help topic)
  | ['-', '-', 'v', 'e', 'r', 's', 'i', 'o', 'n'] =>
    if topic = .program then some .version else none
  | '-' :: 'h' :: _ => some (.help topic)
  | '-' :: 'V' :: _ => if topic = .program then some .version else none
  | _ => none

/-- Whether an argument is an option; a lone minus sign is a path. -/
def isOption (arg : String) : Bool :=
  match arg.toList with
  | '-' :: _ :: _ => true
  | _ => false

/-- **The one path that a command takes.**  `path?` is what came so far, and behind `--` there are
no options any more. -/
def ofPath? (topic : Topic) (make : String → Command) :
    Option String → Bool → List String → Option Command
  | path?, _, [] => path?.map make
  | path?, plain, arg :: rest =>
    if !plain && arg = "--" then ofPath? topic make path? true rest
    else if !plain && isOption arg then ofOption? topic arg
    else if path?.isSome || arg.isEmpty then none
    else ofPath? topic make (some arg) plain rest

/-- **What the arguments ask for**, or nothing when they cannot be understood. -/
def ofArguments? : List String → Option Command
  | [] => some overview
  | ["--"] => some overview
  | "run" :: rest => ofPath? .run run none false rest
  | "check" :: rest => ofPath? .check check none false rest
  | "help" :: rest => (Topic.ofWords? rest).map help
  | arg :: _ => ofOption? .program arg

/-- The path of the file that a command reads. -/
def path? : Command → Option String
  | run path => some path
  | check path => some path
  | _ => none

end Command

/-! ## Commands -/

/-- **What comes of a command.** -/
structure Outcome where
  code : UInt32
  /-- What is printed. -/
  printed : String
  /-- The lines noted on the error stream. -/
  notes : List String
  deriving DecidableEq

namespace Outcome

/-- All went well. -/
def success (printed : String) (notes : List String := []) : Outcome := ⟨0, printed, notes⟩

/-- A command failed, after printing and noting things. -/
def failure (why : String) (printed : String := "") (notes : List String := []) : Outcome :=
  ⟨1, printed, notes ++ ["Error: " ++ why]⟩

/-- The arguments cannot be understood. -/
def misuse : Outcome :=
  ⟨2, "", ["error: unexpected arguments", "", "For more information, try '--help'."]⟩

end Outcome

/-- The members of a report on the jobs. -/
def SchedulerReport.toJson (r : SchedulerReport) : Json :=
  .obj [("cancelled", .bool r.cancelled), ("executed", .ofNat r.executed),
    ("failures", .arr (r.failures.map fun (job, e) =>
      .obj [("error", .str e.message), ("job", .str job)])),
    ("forked", .ofNat r.forked), ("outputs", .arr (r.outputs.map .obj))]

/-- The summary of a report on a request. -/
def JobReport.summary (r : JobReport) : Json :=
  .obj [("iterations", .ofNat r.iterations), ("name", .str r.name),
    ("outcome", .str r.outcome.name)]

/-- What a run shows of its report and of the checkpoints. -/
def EngineReport.summary (r : EngineReport) (checkpoints : Json) : Json :=
  .obj [("checkpoints", checkpoints), ("context", .obj r.context),
    ("jobs", (r.jobs.map SchedulerReport.toJson).getD .null),
    ("requests", .arr (r.requests.map JobReport.summary))]

/-- What an engine defines. -/
def Engine.summary (e : Engine) : Json :=
  .obj [("jobs", .arr (e.jobNames.map .str)), ("requests", .arr (e.requestNames.map .str))]

namespace Command

/-- The definition in the file at a path, or why there is none. -/
def definition (path : String) (content? : Option String) : Except String Definition :=
  match content? with
  | none => .error ("failed to read connector file: " ++ path)
  | some content =>
    (Definition.ofText content).mapError fun _ => "failed to parse connector file: " ++ path

/-- **The context that the standard input holds**: an object, or nothing but blanks. -/
def initialContext (input? : Option String) : Except String Context :=
  match input? with
  | none => .error "failed to read context from stdin"
  | some input =>
    if Text.isBlankText input then .ok []
    else
      match Json.parse? input with
      | none => .error "failed to parse context JSON from stdin"
      | some (.obj context) => .ok context
      | some v => .error ("context must be a JSON object, got: " ++ v.compress)

/-- What is noted before a definition is run. -/
def loadedNote (d : Definition) : String :=
  "Loaded connector: " ++ toString d.requests.length ++ " request(s), "
    ++ toString d.jobs.length ++ " job(s)"

/-- What is noted after a run. -/
def completedNote (r : EngineReport) : String :=
  "Execution completed: " ++ toString r.requests.length ++ " request(s)"
    ++ (if r.stopped then ", stopped early" else "")

/-- The world of a run: the built-in functions, no network and an empty store. -/
def world : World :=
  { functions := Builtins.registry, network := .absent, answers := [], store := some ⟨[]⟩ }

/-- Load a definition for a command. -/
def loaded (d : Definition) (context : Context) : Except String Engine :=
  (Engine.load d context).mapError fun _ => "failed to load connector"

/-- **Run an engine.**  What was printed before a failure stays printed. -/
def execute (e : Engine) (notes : List String) : Outcome :=
  let why := "connector execution failed"
  match e.checkProxy with
  | .error _ => .failure why "" notes
  | .ok () =>
    match (e.run [0] [1]).run world with
    | (.ok (.ok report), w) =>
      let checkpoints := (w.store.map Store.toJson).getD .null
      .success (w.printed ++ (report.summary checkpoints).pretty ++ "\n")
        (notes ++ [completedNote report])
    | (_, w) => .failure why w.printed notes

/-- Run the connector of a file. -/
def performRun (path : String) (content? input? : Option String) : Outcome :=
  match definition path content? with
  | .error why => .failure why
  | .ok d =>
    let notes := [loadedNote d]
    match initialContext input? with
    | .error why => .failure why "" notes
    | .ok context =>
      match loaded d context with
      | .error why => .failure why "" notes
      | .ok e => execute e notes

/-- Check the connector of a file. -/
def performCheck (path : String) (content? : Option String) : Outcome :=
  match (definition path content?).bind fun d => loaded d [] with
  | .error why => .failure why
  | .ok e => .success (e.summary.pretty ++ "\n")

/-- **What comes of a command**, given the content of its file and the standard input, as far as
they can be read. -/
def perform (content? input? : Option String) : Command → Outcome
  | overview => .success (programName ++ " - use --help to see available commands\n")
  | version => .success (programName ++ " " ++ programVersion ++ "\n")
  | help topic => .success topic.text
  | run path => performRun path content? input?
  | check path => performCheck path content?

end Command

end Connector
