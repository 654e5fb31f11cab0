import EditorBridge.CommandLine.Help
import EditorBridge.Config.Discovery
import EditorBridge.Daemon.Client
import EditorBridge.Logging.Filter
import EditorBridge.Logging.Line
import EditorBridge.Program.Lookup
import EditorBridge.Session.Serve

/-!
# A run of the bridge

The command line is read, then the configuration is found, and then the input is served to its end;
the run ends early when the user only wants to know something, or when one of these steps fails.
The log goes to stderr, between whatever the session writes there, and starts with the
configuration.
-/
namespace EditorBridge.Program

open Logging CommandLine

structure Surroundings where
  /-- Where programs are looked up. -/
  searchPath : List Path
  /-- The filter of the log, when the environment has one. -/
  logFilter : Option String
  /-- The time of day at which each line is answered. -/
  clock : Nat → String
  /-- The time at which a record is logged, the same for all of them. -/
  stamp : String
  /-- How long a call of the client is said to take, in milliseconds. -/
  duration : String

structure Result (ρ : Type) where
  stdout : Bytes
  stderr : Bytes
  status : ExitStatus
  site : Site ρ

/-- A run that writes a text on stdout and nothing else. -/
def Result.told {ρ : Type} (site : Site ρ) (text : String) : Result ρ :=
  ⟨Utf8.encode text, [], .success, site⟩

/-- A run that fails before it has begun. -/
def Result.refused {ρ : Type} (site : Site ρ) (text : String) : Result ρ :=
  ⟨[], Utf8.encode text, .usage, site⟩

def padRight (width : Nat) (text : String) : String :=
  text ++ String.ofList (List.replicate (width - text.length) ' ')

def configurationText (config : Config) : String :=
  String.join (config.effective.map fun (key, value, source) =>
    padRight 14 key ++ " = " ++ padRight 30 value ++ " (" ++ source ++ ")\n")

def configurationRecords (config : Config) : List Record :=
  config.effective.map fun (key, value, source) =>
    ⟨.debug, .startup, "Configuration",
      [.quote "key" key, .plain "value" value, .plain "source" source]⟩

def programRecord (program : String) (found : Option Path) : Record :=
  match found with
  | some path =>
      ⟨.info, .startup, "Using daemon client",
        [.quote "program" program, .plain "path" path.text]⟩
  | none =>
      ⟨.warn, .startup, "Daemon client not found on PATH",
        [.quote "program" program, .plain "error" "cannot find binary path"]⟩

def stoppedRecord (error : BridgeError) : Record :=
  ⟨.error, .startup, "Bridge stopped",
    [.plain "error" error.message, .count "exit_code" error.exitStatus.number]⟩

/-- How a run begins: it is over at once, or there is a configuration to serve with. -/
inductive Beginning (ρ : Type) where
  | over (result : Result ρ)
  | serving (config : Config)

/-- Read the command line and find the configuration. -/
def begin {ρ : Type} (site : Site ρ) (arguments : List Bytes) : Beginning ρ :=
  match Flags.read arguments with
  | .error (.help full) => .over (.told site (helpText full))
  | .error .version => .over (.told site versionLine)
  | .error (.misuse error) => .over (.refused site (misuseText error))
  | .ok flags =>
      match Config.discover site.files site.directory (pathOf site.directory) flags.overrides with
      | .error error => .over (.refused site (BridgeError.config error).report)
      | .ok config =>
          if flags.printConfig then .over (.told site (configurationText config))
          else .serving config

/-- A record as the log shows it, or nothing when the filter does not admit it. -/
def logged (around : Surroundings) (config : Config) (record : Record) : Bytes :=
  let verbose := config.verbose.value
  if (Filter.choose around.logFilter verbose).admits record then
    Utf8.encode (record.line verbose around.stamp around.duration)
  else []

def shown (around : Surroundings) (config : Config) : Event → Bytes
  | .wrote .err bytes => bytes
  | .logged record => logged around config record
  | _ => []

/-- What is logged before the first line is read. -/
def opening {ρ : Type} (around : Surroundings) (config : Config) (site : Site ρ) : Bytes :=
  let found :=
    lookup site.files around.searchPath site.directory (Path.ofString config.program.value)
  (configurationRecords config ++ [programRecord config.program.value found]).flatMap
    (logged around config)

/-- What is said about an error that ended the session. -/
def closing (around : Surroundings) (config : Config) (error : BridgeError) : Bytes :=
  logged around config (stoppedRecord error) ++ Utf8.encode error.report

def serve {ρ : Type} (launcher : Launcher ρ) (around : Surroundings) (config : Config)
    (site : Site ρ) (input : Bytes) : Result ρ :=
  let outcome :=
    (Session.serve (Client.program launcher config) around.clock (.ofBytes input)).run
      ⟨.healthy, .healthy, site⟩
  let (status, farewell) := match outcome.result with
    | .ok () => (ExitStatus.success, [])
    | .error error => (error.exitStatus, closing around config error)
  { status
    stdout := outcome.trace.bytesOn .out
    stderr := opening around config site ++ outcome.trace.flatMap (shown around config) ++ farewell
    site := outcome.world.client }

def run {ρ : Type} (launcher : Launcher ρ) (around : Surroundings) (site : Site ρ)
    (arguments : List Bytes) (input : Bytes) : Result ρ :=
  match begin site arguments with
  | .over result => result
  | .serving config => serve launcher around config site input

end EditorBridge.Program
