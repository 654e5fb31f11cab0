import EditorBridge.CommandLine.Word
import EditorBridge.Config.Basic

/-!
# Flags

The command line of the bridge (specification, 6), in the syntax of the `clap` library.  Of its
rules three are relied on: written flags that can be taken in are read (`readFrom_commandLine`),
nothing else is read as flags (`leads_of_readFrom`), and what is a misuse stays one behind other
flags (`misused_commandLine`).

The bridge takes options with a value, and switches without; it takes nothing else.  Every flag may
be given once, in any order.  An option's value is attached by an equals sign, or is the next
argument, which then may not look like a flag.

A value that stands as an argument of its own is judged only when the argument after it has been
seen: when that one can be no part of any command line, it is the one that is complained about.
-/
namespace EditorBridge.CommandLine

inductive OptionName where
  | config
  | program
  | statusFile
  | projectDir
  | timeout
  deriving DecidableEq, Repr

inductive SwitchName where
  | printConfig
  | verbose
  deriving DecidableEq, Repr

/-- Everything that a name on the command line can mean. -/
inductive FlagName where
  | option (name : OptionName)
  | switch (name : SwitchName)
  | help
  | version
  deriving DecidableEq, Repr

namespace FlagName

def longNames : List (String × FlagName) :=
  [("config", option .config), ("program", option .program), ("status-file", option .statusFile),
    ("project-dir", option .projectDir), ("timeout", option .timeout),
    ("print-config", switch .printConfig), ("verbose", switch .verbose), ("help", help),
    ("version", version)]

def letterNames : List (String × FlagName) :=
  [("v", switch .verbose), ("h", help), ("V", version)]

def find? (names : List (String × FlagName)) (name : Bytes) : Option FlagName :=
  (names.find? fun entry => Utf8.encode entry.1 = name).map (·.2)

def ofLong? (name : Bytes) : Option FlagName := find? longNames name

def ofLetter? (letter : UInt8) : Option FlagName := find? letterNames [letter]

def long : FlagName → String
  | option .config => "config"
  | option .program => "program"
  | option .statusFile => "status-file"
  | option .projectDir => "project-dir"
  | option .timeout => "timeout"
  | switch .printConfig => "print-config"
  | switch .verbose => "verbose"
  | help => "help"
  | version => "version"

end FlagName

inductive UsageError where
  /-- An argument that no command line has. -/
  | unknown
  /-- A flag given twice. -/
  | repeated
  /-- A value attached to a switch. -/
  | unneededValue
  /-- An option without its value, or a path that is empty. -/
  | missingValue
  /-- The argument that has to be there is not. -/
  | missingArgument
  /-- A number that is none. -/
  | notNumber
  /-- A text that is none. -/
  | notText
  deriving DecidableEq, Repr

def UsageError.message : UsageError → String
  | unknown => "unexpected argument found"
  | repeated => "a flag cannot be used multiple times"
  | unneededValue => "unexpected value for a flag that takes none"
  | missingValue => "a value is required but none was supplied"
  | missingArgument => "the required arguments were not provided"
  | notNumber => "a number of seconds is required"
  | notText => "invalid UTF-8 was detected in an argument"

inductive Refusal where
  /-- The user wants to read about the flags, in full when asked by the long name. -/
  | help (full : Bool)
  /-- The user wants to know the version. -/
  | version
  | misuse (error : UsageError)
  deriving DecidableEq, Repr

structure Flags where
  config : Option Path
  program : Option String
  statusFile : Option String
  projectDir : Option Path
  timeout : Option Nat
  printConfig : Bool
  verbose : Bool
  deriving DecidableEq, Repr

/-- The number that digits stand for, when 64 bits can hold it. -/
def number? (digits : List Char) : Option Nat :=
  if digits ≠ [] ∧ digits.all Char.isDigit then
    let n := digits.foldl (fun n c => n * 10 + (c.toNat - '0'.toNat)) 0
    if n < UInt64.size then some n else none
  else none

def textValue (value : Bytes) : Except UsageError String :=
  match Utf8.decode? value with
  | some text => .ok text
  | none => .error .notText

/-- A path value, which may not be empty. -/
def pathValue (value : Bytes) : Except UsageError Path :=
  if value = [] then .error .missingValue else .ok value

/-- A number value, with or without a plus sign. -/
def numberValue (value : Bytes) : Except UsageError Nat := do
  let digits := match (← textValue value).toList with
    | '+' :: digits => digits
    | digits => digits
  match number? digits with
  | some n => return n
  | none => throw .notNumber

def assignOnce {α : Type} (current : Option α) (value : Except UsageError α) :
    Except UsageError (Option α) :=
  if current.isSome then .error .repeated else value.map some

def switchOnce (current : Bool) : Except UsageError Bool :=
  if current then .error .repeated else .ok true

namespace Flags

/-- The command line without arguments. -/
def none : Flags := ⟨.none, .none, .none, .none, .none, false, false⟩

def setOption (flags : Flags) (name : OptionName) (value : Bytes) : Except UsageError Flags :=
  match name with
  | .config => do return { flags with config := ← assignOnce flags.config (pathValue value) }
  | .program => do return { flags with program := ← assignOnce flags.program (textValue value) }
  | .statusFile => do
      return { flags with statusFile := ← assignOnce flags.statusFile (textValue value) }
  | .projectDir => do
      return { flags with projectDir := ← assignOnce flags.projectDir (pathValue value) }
  | .timeout => do return { flags with timeout := ← assignOnce flags.timeout (numberValue value) }

def setSwitch (flags : Flags) : SwitchName → Except UsageError Flags
  | .printConfig => do return { flags with printConfig := ← switchOnce flags.printConfig }
  | .verbose => do return { flags with verbose := ← switchOnce flags.verbose }

/-- What is wrong with an argument at first sight, where no value is expected. -/
def flaw? (argument : Bytes) : Option UsageError :=
  match Word.ofArgument argument with
  | .endOfFlags => .none
  | .plain _ => some .unknown
  | .letters cluster =>
      if (cluster.head?.bind FlagName.ofLetter?).isSome then .none else some .unknown
  | .long name value =>
      match FlagName.ofLong? name with
      | .none => some .unknown
      | some (.option _) => .none
      | some _ => if value.isSome then some .unneededValue else .none

/-- What is wrong at first sight with what comes next. -/
def flawAhead? : List Bytes → Option UsageError
  | [] => .none
  | argument :: rest =>
      if Word.ofArgument argument = .endOfFlags then
        if rest = [] then .none else some .unknown
      else flaw? argument

/-- Whether an argument can be the value of an option before it. -/
def isValue (argument : Bytes) : Bool :=
  match Word.ofArgument argument with
  | .plain _ => true
  | _ => false

def checked {α : Type} (result : Except UsageError α) : Except Refusal α := result.mapError .misuse

def readLetters (flags : Flags) : Bytes → Except Refusal Flags
  | [] => .ok flags
  | letter :: rest =>
      match FlagName.ofLetter? letter with
      | some (.switch name) => do readLetters (← checked (flags.setSwitch name)) rest
      | some .help => .error (.help false)
      | some .version => .error .version
      | _ => .error (.misuse .unknown)

/-- Take arguments in, one after the other. -/
def readFrom (flags : Flags) : List Bytes → Except Refusal Flags
  | [] => .ok flags
  | argument :: rest =>
      match Word.ofArgument argument with
      | .endOfFlags => if rest = [] then .ok flags else .error (.misuse .unknown)
      | .plain _ => .error (.misuse .unknown)
      | .letters cluster => do readFrom (← readLetters flags cluster) rest
      | .long name value =>
          match FlagName.ofLong? name, value with
          | .none, _ => .error (.misuse .unknown)
          | some (.option name), some value => do
              readFrom (← checked (flags.setOption name value)) rest
          | some (.option name), .none =>
              match rest with
              | [] => .error (.misuse .missingValue)
              | next :: after =>
                  if isValue next then
                    match flawAhead? after with
                    | some error => .error (.misuse error)
                    | .none => do readFrom (← checked (flags.setOption name next)) after
                  else .error (.misuse ((flawAhead? (next :: after)).getD .missingValue))
          | some _, some _ => .error (.misuse .unneededValue)
          | some (.switch name), .none => do readFrom (← checked (flags.setSwitch name)) rest
          | some .help, .none => .error (.help true)
          | some .version, .none => .error .version

def read (arguments : List Bytes) : Except Refusal Flags := readFrom none arguments

def overrides (flags : Flags) : Overrides where
  configPath := flags.config
  program := flags.program
  statusFile := flags.statusFile
  projectDir := flags.projectDir
  timeoutSecs := flags.timeout
  verbose := some flags.verbose

end Flags

inductive Written where
  /-- An option, with its value attached or in an argument of its own. -/
  | option (name : OptionName) (value : Bytes) (attached : Bool)
  /-- A switch by its long name. -/
  | switch (name : SwitchName)
  /-- The short form of the wish for a verbose log. -/
  | letterVerbose
  deriving DecidableEq, Repr

namespace Written

def flag : Written → FlagName
  | option name _ _ => .option name
  | switch name => .switch name
  | letterVerbose => .switch .verbose

def words : Written → List Word
  | option name value true => [.long (Utf8.encode (FlagName.option name).long) (some value)]
  | option name value false =>
      [.long (Utf8.encode (FlagName.option name).long) .none, .plain value]
  | switch name => [.long (Utf8.encode (FlagName.switch name).long) .none]
  | letterVerbose => [.letters (Utf8.encode "v")]

def arguments (written : Written) : List Bytes := written.words.map Word.argument

def commandLine (items : List Written) : List Bytes := items.flatMap arguments

end Written

end EditorBridge.CommandLine
