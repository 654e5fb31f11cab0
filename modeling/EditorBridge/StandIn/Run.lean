import EditorBridge.Files.Tree
import EditorBridge.StandIn.Answer
import EditorBridge.StandIn.Arguments

/-!
# Running the stand-in client

A run that is not refused leaves a record of its arguments in a file, when there is one for it, and
then answers.  The record comes first, so that it is there whatever the answer is.
-/
namespace EditorBridge.StandIn

open Host (SystemError)

def versionLine : String := "dmypy-stub 1.13.0\n"

def usage : String := "Usage: dmypy-stub [OPTIONS] <COMMAND>...\n"

/-- What the stand-in says about itself; the command has no explanation of its own. -/
def help : String :=
  "Stub dmypy client for testing\n\n" ++ usage
    ++ "\nArguments:\n  <COMMAND>...  \n\nOptions:\n"
    ++ "      --status-file <FILE>  [default: " ++ Arguments.defaultStatusFile ++ "]\n"
    ++ "  -h, --help                Print help\n  -V, --version             Print version\n"

/-- What the stand-in says when it does not come to a command. -/
def refusal : CommandLine.Refusal → Execution.Output
  | .help _ => output help "" 0
  | .version => output versionLine "" 0
  | .misuse error => output "" ("error: " ++ error.message ++ "\n\n" ++ usage) 2

/-- The record of a run: its arguments on one line. -/
def record (arguments : List Bytes) : Bytes := (arguments.intersperse [0x20]).flatten ++ [0x0A]

/-- The kinds of errors that opening a file can give, by error number. -/
def errorKinds : List (Int × String) :=
  [(2, "NotFound"), (13, "PermissionDenied"), (20, "NotADirectory"), (21, "IsADirectory"),
    (36, "InvalidFilename")]

/-- What the stand-in says when it cannot leave its record. -/
def recordFailure : SystemError → String
  | .number n =>
      "Error: Os \x7b code: " ++ toString n
        ++ ", kind: " ++ (errorKinds.lookup n).getD "Uncategorized"
        ++ ", message: \"" ++ SystemError.text n ++ "\" \x7d\n"
  | error => "Error: " ++ error.message ++ "\n"

/-- Run the stand-in: what it leaves behind, and what it says. -/
def run (tree : FileTree) (directory : Location) (scenario : Scenario) (log : Option Path)
    (arguments : List Bytes) : FileTree × Execution.Output :=
  match Arguments.read arguments with
  | .error reason => (tree, refusal reason)
  | .ok told =>
      match log with
      | none => (tree, answer scenario told.command)
      | some path =>
          match tree.write directory path true (record arguments) with
          | (tree, .error error) => (tree, output "" (recordFailure error) 1)
          | (tree, .ok ()) => (tree, answer scenario told.command)

end EditorBridge.StandIn
