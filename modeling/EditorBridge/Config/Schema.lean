import EditorBridge.Toml.Value

/-!
# The form of a configuration file

A file has two sections, `daemon` and `logging`, and no other key at the top.  A section is a table,
in which further keys are passed over, or an array of all its fields in their order, after which
further elements are not even looked at.  A date or a time counts as a section without any keys.

A key that is passed over is still read: a number in it that has no value, or that no machine
integer of 128 bits, or no floating-point number, can hold makes the file unusable.
-/
namespace EditorBridge.Config

open EditorBridge.Toml (Value Table)

/-- The section about the daemon's client. -/
structure DaemonSection where
  program : Option String
  programArgs : Option (List String)
  statusFile : Option String
  timeoutSecs : Option Nat
  projectDir : Option String
  deriving DecidableEq, Repr

structure LoggingSection where
  verbose : Option Bool
  deriving DecidableEq, Repr

structure FileSettings where
  daemon : DaemonSection
  logging : LoggingSection
  deriving DecidableEq, Repr

def DaemonSection.empty : DaemonSection := ⟨none, none, none, none, none⟩

def LoggingSection.empty : LoggingSection := ⟨none⟩

def FileSettings.empty : FileSettings := ⟨.empty, .empty⟩

namespace Schema

def string? : Value → Option String
  | .string text => some text
  | _ => none

def strings? : Value → Option (List String)
  | .array items => items.mapM string?
  | _ => none

/-- An integer that fits into 64 bits without a sign. -/
def natural? : Value → Option Nat
  | .integer (some (.ofNat n)) => if n < UInt64.size then some n else none
  | _ => none

def boolean? : Value → Option Bool
  | .boolean value => some value
  | _ => none

mutual

def readable : Value → Bool
  | .integer (some (.ofNat n)) => n < UInt64.size * UInt64.size
  | .integer (some (.negSucc n)) => n < UInt64.size * UInt64.size / 2
  | .integer none => false
  | .float (some decimal) => !decimal.tooLarge
  | .array items => readableItems items
  | .table entries => readableEntries entries
  | _ => true

def readableItems : List Value → Bool
  | [] => true
  | item :: rest => readable item && readableItems rest

def readableEntries : List (String × Value) → Bool
  | [] => true
  | (_, value) :: rest => readable value && readableEntries rest

end

/-- Read an optional key: the outer option fails when there is a value of the wrong type. -/
def optional {α : Type} (read : Value → Option α) (table : Table) (key : String) :
    Option (Option α) :=
  match table.lookup key with
  | none => some none
  | some value => (read value).map some

/-- The keys of the section about the client. -/
def daemonKeys : List String :=
  ["program", "program_args", "status_file", "timeout_secs", "project_dir"]

/-- The keys of the section about the log. -/
def loggingKeys : List String := ["verbose"]

/-- Whether all keys other than the known ones can be passed over. -/
def othersReadable (known : List String) (table : Table) : Bool :=
  readableEntries (table.filter fun entry => !known.contains entry.1)

def daemon? : Value → Option DaemonSection
  | .table table => do
      let program ← optional string? table "program"
      let programArgs ← optional strings? table "program_args"
      let statusFile ← optional string? table "status_file"
      let timeoutSecs ← optional natural? table "timeout_secs"
      let projectDir ← optional string? table "project_dir"
      if othersReadable daemonKeys table then
        return ⟨program, programArgs, statusFile, timeoutSecs, projectDir⟩
      else none
  | .array (program :: programArgs :: statusFile :: timeoutSecs :: projectDir :: _) => do
      return ⟨← string? program, ← strings? programArgs, ← string? statusFile,
        ← natural? timeoutSecs, ← string? projectDir⟩
  | .dateTime => some .empty
  | _ => none

def logging? : Value → Option LoggingSection
  | .table table => do
      let verbose ← optional boolean? table "verbose"
      if othersReadable loggingKeys table then return ⟨verbose⟩ else none
  | .array (verbose :: _) => do return ⟨← boolean? verbose⟩
  | .dateTime => some .empty
  | _ => none

def isSection (key : String) : Bool := key = "daemon" || key = "logging"

def settings? (document : Table) : Option FileSettings := do
  let daemon ← optional daemon? document "daemon"
  let logging ← optional logging? document "logging"
  if document.all fun entry => isSection entry.1 then
    return ⟨daemon.getD .empty, logging.getD .empty⟩
  else none

end Schema

end EditorBridge.Config
