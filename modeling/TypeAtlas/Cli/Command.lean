import TypeAtlas.Cli.Arguments
import TypeAtlas.Config.Json
import TypeAtlas.Files.Host
import TypeAtlas.Graph.Basic
import TypeAtlas.Model.Json
import TypeAtlas.Samples
import TypeAtlas.Sessions
import TypeAtlas.Text.Shown
import TypeAtlas.Watch.Opening

/-!
What the commands do.

A command either writes a text and ends, or fails with a report, or goes on watching.
-/

set_option autoImplicit false

namespace TypeAtlas.Cli

open Files (Host)
open Watch (Watched)

/-! ### Failures -/

/-- Why a command fails. -/
inductive Failure where
  | config (path : String) (error : ConfigError)
  | invalidOption (invalid : InvalidOption)
  | unreadable (path : String) (fault : Files.Fault)
  | unreadableInput (fault : Files.Fault)
  | unresolved (path : String) (fault : Files.Fault)
  | watch (error : Watch.Error)
  | unknownSample (name : String)

/-- What a failure is, and what each entry comes from after it. -/
def Failure.report : Failure → List String
  | .config path error => ("Failed to load config " ++ path) :: error.message :: error.cause?.toList
  | .invalidOption invalid => [(ConfigError.invalidOption invalid).message]
  | .unreadable path fault => ["Failed to read " ++ path, fault.message]
  | .unreadableInput fault => ["Failed to read stdin", fault.message]
  | .unresolved path fault => ["Failed to resolve " ++ path, fault.message]
  | .watch error => [error.message]
  | .unknownSample name =>
    ["Unknown sample " ++ Text.shown name ++ "; available: " ++
      ", ".intercalate (Sample.all.map (·.name))]

/-! ### Outcomes -/

/-- What a command that goes on needs to know: what it watches, what it knows of the files, and
whether it writes the models after each change. -/
structure Watching where
  watched : Watched
  sessions : Sessions
  config : Config
  print : Bool

/-- What running a command line leads to. -/
inductive Outcome where
  /-- The text is written and all is well. -/
  | written (text : String)
  | failed (failure : Failure)
  /-- The command line makes no sense. -/
  | misused
  /-- The text is written, and then changes are waited for. -/
  | watching (text : String) (state : Watching)

/-- The number with which the program ends, unless it goes on. -/
def Outcome.exitCode : Outcome → Nat
  | .written _ | .watching _ _ => 0
  | .failed _ => 1
  | .misused => 2

/-- The text that is written. -/
def Outcome.output : Outcome → String
  | .written text | .watching text _ => text
  | .failed _ | .misused => ""

/-- The report of a failure. -/
def Outcome.report : Outcome → List String
  | .failed failure => failure.report
  | _ => []

/-! ### Settings -/

/-- The settings with those of the command line in their places. -/
def Invocation.apply (invocation : Invocation) (config : Config) : Config :=
  let settings := invocation.settings
  let watch := match invocation.command with
    | .watch _ recursive debounceMs _ =>
      ⟨debounceMs.getD config.watch.debounceMs, recursive || config.watch.recursive⟩
    | _ => config.watch
  { extract := { config.extract with
      inheritedFields := settings.inheritedFields || config.extract.inheritedFields
      includeClasses := !settings.noClasses && config.extract.includeClasses }
    watch
    output := ⟨!settings.compact && config.output.pretty⟩ }

variable {m : Type → Type} [Monad m]

/-- The settings of an invocation: those of its file, if it names one, with those of the command
line in their places. -/
def Invocation.config (host : Host m) (invocation : Invocation) : m (Except Failure Config) := do
  let file : Except Failure Config ← match invocation.settings.config with
    | none => pure (.ok {})
    | some path =>
      match Config.ofFile path (← host.read ⟨path⟩) with
      | .ok config => pure (.ok config)
      | .error error => pure (.error (.config path error))
  return file.bind fun config =>
    let config := invocation.apply config
    match config.invalid? with
    | some invalid => .error (.invalidOption invalid)
    | none => .ok config

/-! ### Commands -/

/-- A JSON value as a command writes it. -/
def line (config : Config) (value : Json) : String := value.print config.output.pretty ++ "\n"

/-- The text to extract models from. A dash stands for the text that is given besides files. -/
def source (host : Host m) (input : String) : m (Except Failure String) := do
  if input = "-" then
    return (← host.input).mapError .unreadableInput
  else return (← host.read ⟨input⟩).mapError (.unreadable input)

/-- Writes something that is made of the models of a source. -/
def writeOf (host : Host m) (config : Config) (input : String) (make : List Model → Json) :
    m Outcome := do
  match ← source host input with
  | .ok text => return .written (line config (make (Model.ofText text config.extract)))
  | .error failure => return .failed failure

/-- Starts to watch a file or directory. The models of a file are extracted at once, those of the
files in a directory when they change first. -/
def watch (host : Host m) (config : Config) (path : String) (print : Bool) : m Outcome := do
  if ← host.isDirectory ⟨path⟩ then
    match ← Watched.whole host ⟨path⟩ .sources with
    | .ok watched => return .watching "" ⟨watched, .empty, config, print⟩
    | .error error => return .failed (.watch error)
  else
    match ← host.resolve ⟨path⟩ with
    | .error fault => return .failed (.unresolved path fault)
    | .ok place =>
      let file := Path.ofNames place
      match ← host.read file with
      | .error fault => return .failed (.unreadable file.text fault)
      | .ok text =>
        let sessions := Sessions.empty.update file (some text) config.extract
        match ← Watched.file host file with
        | .error error => return .failed (.watch error)
        | .ok watched =>
          let written :=
            if print then line config (Model.toJsons (sessions.models file)) else ""
          return .watching written ⟨watched, sessions, config, print⟩

/-- What a change of one file makes of the sessions, and what is written for it. -/
def Watching.change (state : Watching) (read : Path → Except Files.Fault String)
    (written : String × Sessions) (path : Path) : String × Sessions :=
  let sessions := written.2.change path (read path) state.config.extract
  let diff := ModelDiff.between (written.2.models path) (sessions.models path)
  if state.print && !diff.isEmpty then
    (written.1 ++ line state.config (Model.toJsons (sessions.models path)), sessions)
  else (written.1, sessions)

/-- Takes a change batch, given what reading each path yields, and says what is written for it. -/
def Watching.take (state : Watching) (read : Path → Except Files.Fault String)
    (batch : Watch.Batch) : String × Watching :=
  let written := batch.paths.foldl (state.change read) ("", state.sessions)
  (written.1, { state with sessions := written.2 })

/-- A text with spaces after it up to a width. -/
def padded (width : Nat) (text : String) : String :=
  text ++ String.ofList (List.replicate (width - text.length) ' ')

/-- Lists all samples, or writes the source of one. -/
def samples : Option String → Outcome
  | none =>
    .written (String.join (Sample.all.map fun sample =>
      padded 18 sample.name ++ sample.description ++ "\n"))
  | some name =>
    match Sample.named? name with
    | some sample => .written (sample.source ++ "\n")
    | none => .failed (.unknownSample name)

/-- Runs a command with its settings. -/
def Command.run (host : Host m) (config : Config) : Command → m Outcome
  | .models input => writeOf host config input Model.toJsons
  | .graph input => writeOf host config input fun models => (Graph.ofModels models).toJson
  | .watch path _ _ print => Cli.watch host config path print
  | .samples name => return Cli.samples name

/-! ### The whole program -/

/-- The name of the program. -/
def programName : String := "tsgraph"

/-- The version of the program. -/
def programVersion : String := "0.1.0"

/-- How the program is used. -/
def usage : String :=
  "\n".intercalate
    ["Extracts model dependency graphs from TypeScript type declarations", "",
      "Usage: tsgraph [OPTIONS] <COMMAND>", "",
      "Commands:",
      "  models <INPUT>   Print the models of a file as JSON",
      "  graph <INPUT>    Print the drawable nodes and edges of a file as JSON",
      "  watch <PATH>     Re-extract whenever a file changes",
      "  samples [NAME]   List the bundled samples, or print one", "",
      "Options:",
      "  -c, --config <CONFIG>   JSON configuration file",
      "      --inherited-fields  List members inherited from local supertypes in each schema",
      "      --no-classes        Do not turn classes into models",
      "      --compact           Print JSON on a single line",
      "  -v, --verbose           Enable verbose logging",
      "      --no-color          Disable colored output",
      "  -h, --help              Print help",
      "  -V, --version           Print version", ""]

/-- The outcome of a command line that runs no command. -/
def Stop.outcome : Stop → Outcome
  | .misuse => .misused
  | .help => .written usage
  | .version none => .written (programName ++ " " ++ programVersion ++ "\n")
  | .version (some command) =>
    .written (programName ++ "-" ++ command.word ++ " " ++ programVersion ++ "\n")

/-- Runs a command line in an environment. -/
def run (host : Host m) (arguments : List String) (environment : Environment) : m Outcome := do
  match Invocation.ofArguments arguments environment with
  | .error stop => return stop.outcome
  | .ok invocation =>
    match ← invocation.config host with
    | .error failure => return .failed failure
    | .ok config => invocation.command.run host config

end TypeAtlas.Cli
