import EditorBridge.Text.Utf8

/-!
# Results of a process

A process that ran to its end has an output, whatever its exit status.  One that could not be
started, could not be waited for or took too long has a failure instead.
-/
namespace EditorBridge.Execution

/-- What a finished process wrote, and its exit status unless a signal ended it. -/
structure Output where
  stdout : Bytes
  stderr : Bytes
  exitCode : Option Int
  deriving DecidableEq, Repr

namespace Output

def stdoutText (output : Output) : String := Utf8.decodeLossy output.stdout

def stderrText (output : Output) : String := Utf8.decodeLossy output.stderr

/-- Whether the process ended with status zero. -/
def success (output : Output) : Bool := output.exitCode = some 0

end Output

inductive Failure where
  | spawn (program reason : String)
  | wait (program reason : String)
  | timeout (seconds : Nat)
  deriving DecidableEq, Repr

def Failure.message : Failure → String
  | spawn program reason => "Failed to spawn '" ++ program ++ "': " ++ reason
  | wait program reason => "Failed to wait for '" ++ program ++ "': " ++ reason
  | timeout seconds => "Execution timed out after " ++ toString seconds ++ " seconds"

end EditorBridge.Execution
