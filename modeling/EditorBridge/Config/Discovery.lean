import EditorBridge.Config.Basic
import EditorBridge.Config.Error
import EditorBridge.Config.Schema
import EditorBridge.Files.Tree
import EditorBridge.Text.Trim
import EditorBridge.Toml.Reader

/-!
# Finding the configuration

The layers of a configuration and their precedence (specification, 9.3).

The command line comes first, then the configuration file, then the defaults.  The file is the one
that the command line names, or the nearest one in the directories from the start upwards, up to and
including the first directory that is the root of a repository.  The file must be usable even when
every key is overridden; the values are judged only after all layers have been merged.
-/
namespace EditorBridge.Config

def fileName : String := ".dmypy-bridge.toml"

def repositoryMarkers : List String := [".git", ".hg", ".svn"]

def isRepositoryRoot (tree : FileTree) (directory : Location) (path : Path) : Bool :=
  repositoryMarkers.any fun marker => tree.pathExists directory (path.join (Path.ofString marker))

def fileIn (path : Path) : Path := path.join (Path.ofString fileName)

/-- The first configuration file in a list of directories, unless the root of a repository comes
before it. -/
def searchIn (tree : FileTree) (directory : Location) : List Path → Option Path
  | [] => none
  | path :: rest =>
      if tree.isFile directory (fileIn path) then some (fileIn path)
      else if isRepositoryRoot tree directory path then none
      else searchIn tree directory rest

/-- The configuration file found from a start directory upwards. -/
def search (tree : FileTree) (directory : Location) (start : Path) : Option Path :=
  searchIn tree directory start.ancestors

def readFile (tree : FileTree) (directory : Location) (path : Path) :
    Except ConfigError FileSettings :=
  let reading := "Failed to read config file " ++ path.text
  let parsing := "Failed to parse TOML config file: " ++ path.text
  match tree.read directory path with
  | .error error => .error (.during reading (.unreadable error))
  | .ok content =>
      match Utf8.decode? content with
      | none => .error (.during reading .notText)
      | some text =>
          match Toml.Document.parse? text >>= Schema.settings? with
          | none => .error (.during parsing .malformed)
          | some settings => .ok settings

/-- The settings of a configuration file, an error being told as one of loading it. -/
def loadFile (tree : FileTree) (directory : Location) (path : Path) :
    Except ConfigError FileSettings :=
  (readFile tree directory path).mapError
    (.during ("Failed to load config file: " ++ path.text))

def withFile (config : Config) (path : Path) (settings : FileSettings) : Config where
  program := config.program.override (.file path) settings.daemon.program
  programArgs := config.programArgs.override (.file path) settings.daemon.programArgs
  statusFile := config.statusFile.override (.file path) settings.daemon.statusFile
  timeoutSecs := config.timeoutSecs.overrideSome (.file path) settings.daemon.timeoutSecs
  projectDir :=
    config.projectDir.overrideSome (.file path) (settings.daemon.projectDir.map Path.ofString)
  verbose := config.verbose.override (.file path) settings.logging.verbose

/-- The configuration with what the command line says.  A program on the command line comes without
the arguments configured for another one, and only a wish for a verbose log counts. -/
def withOverrides (config : Config) (overrides : Overrides) : Config where
  program := config.program.override .commandLine overrides.program
  programArgs := config.programArgs.override .commandLine (overrides.program.map fun _ => [])
  statusFile := config.statusFile.override .commandLine overrides.statusFile
  timeoutSecs := config.timeoutSecs.overrideSome .commandLine overrides.timeoutSecs
  projectDir := config.projectDir.overrideSome .commandLine overrides.projectDir
  verbose := config.verbose.override .commandLine (overrides.verbose.filter id)

/-- The longest time that a call may be given, in seconds. -/
def maximalTimeout : Nat := 3600

/-- The first fault of a configuration, in the order of program, status file, timeout and project
directory. -/
def fault? (tree : FileTree) (directory : Location) (config : Config) : Option ConfigError :=
  if Text.isBlank config.program.value then
    some (.invalidValue "program" "must not be empty")
  else if Text.isBlank config.statusFile.value then
    some (.invalidValue "status_file" "must not be empty")
  else if config.timeoutSecs.value = some 0 then
    some (.invalidValue "timeout_secs" "must be greater than 0")
  else if config.timeoutSecs.value.any (maximalTimeout < ·) then
    some (.invalidValue "timeout_secs" "exceeds maximum limit of 3600 seconds (1 hour)")
  else match config.projectDir.value with
    | some path =>
        if tree.isDirectory directory path then none else some (.notFound path.text)
    | none => none

/-- The configuration file to use, if any. -/
def chooseFile (tree : FileTree) (directory : Location) (start : Path) (overrides : Overrides) :
    Except ConfigError (Option Path) :=
  match overrides.configPath with
  | some path =>
      if tree.pathExists directory path then .ok (some path) else .error (.notFound path.text)
  | none => .ok (search tree directory start)

/-- The configuration before the command line is heard. -/
def loadChosen (tree : FileTree) (directory : Location) : Option Path → Except ConfigError Config
  | some path => (loadFile tree directory path).map (withFile default path)
  | none => .ok default

/-- Find, load, merge and judge the configuration.  Relative paths are meant from the directory; the
search for a configuration file begins at the start. -/
def discover (tree : FileTree) (directory : Location) (start : Path) (overrides : Overrides) :
    Except ConfigError Config := do
  let chosen ← chooseFile tree directory start overrides
  let config := (← loadChosen tree directory chosen).withOverrides overrides
  match fault? tree directory config with
  | some error => throw error
  | none => return config

end EditorBridge.Config
