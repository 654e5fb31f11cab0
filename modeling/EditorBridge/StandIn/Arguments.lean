import EditorBridge.CommandLine.Flags

/-!
# Arguments of the stand-in client

The stand-in takes one option, the status file, and then the command of the daemon's client.  The
command starts at the first argument that is neither the option nor a wish for help or the version,
be it shaped like a flag or not, and from there on every argument belongs to it as it is.
-/
namespace EditorBridge.StandIn

open CommandLine

structure Arguments where
  statusFile : String
  command : List String
  deriving DecidableEq, Repr

namespace Arguments

def defaultStatusFile : String := ".dmypy.json"

def longNames : List (String × FlagName) :=
  [("status-file", .option .statusFile), ("help", .help), ("version", .version)]

def letterNames : List (String × FlagName) := [("h", .help), ("V", .version)]

/-- Whether an argument of this shape is one of the stand-in's own flags. -/
def isFlag : Word → Bool
  | .endOfFlags => true
  | .long name _ => (FlagName.find? longNames name).isSome
  | .letters cluster => cluster.all fun letter => (FlagName.find? letterNames [letter]).isSome
  | .plain _ => false

/-- Whether an argument has the shape of a long flag whose name is no text. -/
def isUnreadable : Word → Bool
  | .long name _ => (Utf8.decode? name).isNone
  | _ => false

/-- The stand-in's arguments, once the command has started. -/
def withCommand (statusFile : Option String) (command : List Bytes) : Except Refusal Arguments :=
  if command = [] then .error (.misuse .missingArgument)
  else do
    return ⟨statusFile.getD defaultStatusFile, ← Flags.checked (command.mapM textValue)⟩

/-- Take arguments in until the command starts. -/
def readFrom (statusFile : Option String) : List Bytes → Except Refusal Arguments
  | [] => .error (.misuse .missingArgument)
  | argument :: rest =>
      let word := Word.ofArgument argument
      if isUnreadable word then .error (.misuse .unknown)
      else if !isFlag word then withCommand statusFile (argument :: rest)
      else match word with
        | .endOfFlags => withCommand statusFile rest
        | .plain _ => withCommand statusFile (argument :: rest)
        | .letters cluster =>
            match cluster.head?.bind fun letter => FlagName.find? letterNames [letter] with
            | some .version => .error .version
            | _ => .error (.help false)
        | .long name value =>
            match FlagName.find? longNames name, value with
            | some .help, none => .error (.help true)
            | some .version, none => .error .version
            | some (.option _), some value => do
                readFrom (← Flags.checked (assignOnce statusFile (textValue value))) rest
            | some (.option _), none =>
                match rest with
                | [] => .error (.misuse .missingValue)
                | next :: after =>
                    if isFlag (Word.ofArgument next) || isUnreadable (Word.ofArgument next) then
                      .error (.misuse .missingValue)
                    else do
                      readFrom (← Flags.checked (assignOnce statusFile (textValue next))) after
            | _, _ => .error (.misuse .unneededValue)

/-- What the stand-in is told by its command line. -/
def read (arguments : List Bytes) : Except Refusal Arguments := readFrom none arguments

end Arguments

end EditorBridge.StandIn
