import EditorBridge.Files.Path

/-!
# Configurations

Every setting has a value and remembers where the value came from.
-/
namespace EditorBridge

inductive Source where
  | default
  | file (path : Path)
  | commandLine
  deriving DecidableEq, Repr

def Source.name : Source → String
  | default => "default"
  | file path => "config (" ++ path.text ++ ")"
  | commandLine => "cli"

structure Setting (α : Type) where
  value : α
  source : Source
  deriving DecidableEq, Repr

namespace Setting

def byDefault {α : Type} (value : α) : Setting α := ⟨value, .default⟩

/-- The setting, unless there is a new value for it. -/
def override {α : Type} (setting : Setting α) (source : Source) : Option α → Setting α
  | some value => ⟨value, source⟩
  | none => setting

/-- The setting, unless there is a new value for it, where having no value is a value too. -/
def overrideSome {α : Type} (setting : Setting (Option α)) (source : Source) :
    Option α → Setting (Option α)
  | some value => ⟨some value, source⟩
  | none => setting

end Setting

/-- What the bridge can be told. -/
structure Config where
  /-- The daemon's client. -/
  program : Setting String
  /-- Arguments that come before all others. -/
  programArgs : Setting (List String)
  /-- The file by which the client finds the daemon. -/
  statusFile : Setting String
  /-- How long a call may take. -/
  timeoutSecs : Setting (Option Nat)
  /-- The directory that the client works in. -/
  projectDir : Setting (Option Path)
  /-- Whether the log tells more. -/
  verbose : Setting Bool
  deriving DecidableEq, Repr

namespace Config

/-- The configuration when nobody says anything. -/
def default : Config where
  program := .byDefault "dmypy"
  programArgs := .byDefault []
  statusFile := .byDefault ".mypy_cache/.dmypy.json"
  timeoutSecs := .byDefault none
  projectDir := .byDefault none
  verbose := .byDefault false

/-- Every key with its value and its source in words, in the order of the keys. -/
def effective (config : Config) : List (String × String × String) :=
  [("program", config.program.value, config.program.source.name),
    ("program_args", " ".intercalate config.programArgs.value, config.programArgs.source.name),
    ("project_dir", config.projectDir.value.elim "." Path.text, config.projectDir.source.name),
    ("status_file", config.statusFile.value, config.statusFile.source.name),
    ("timeout_secs", config.timeoutSecs.value.elim "none" toString, config.timeoutSecs.source.name),
    ("verbose", toString config.verbose.value, config.verbose.source.name)]

end Config

/-- What the command line says about the configuration. -/
structure Overrides where
  configPath : Option Path
  program : Option String
  statusFile : Option String
  projectDir : Option Path
  timeoutSecs : Option Nat
  verbose : Option Bool
  deriving DecidableEq, Repr

end EditorBridge
