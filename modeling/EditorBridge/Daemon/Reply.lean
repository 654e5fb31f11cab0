import EditorBridge.Command.Opcode
import EditorBridge.Execution.Output

/-!
# Replies of the daemon's client

The failures of the daemon (specification, 4.1).

A client that ran to its end gives a reply; whether its exit status is a success depends on the
operation.  Everything else is an error, and each error has a kind that the editor knows.
-/
namespace EditorBridge

/-- Why an operation of the daemon failed. -/
inductive DaemonError where
  | spawn (program reason : String)
  | exit (opcode : Opcode) (status : Int)
  | signal (opcode : Opcode)
  | timeout (opcode : Opcode) (seconds : Nat)
  deriving DecidableEq, Repr

namespace DaemonError

def kind : DaemonError → String
  | spawn .. => "SpawnFailed"
  | exit .. => "DaemonExit"
  | signal .. => "DaemonKilled"
  | timeout .. => "Timeout"

def message : DaemonError → String
  | spawn program reason => "could not start " ++ program ++ ": " ++ reason
  | exit op status => op.name ++ " exited with status " ++ toString status
  | signal op => op.name ++ " was terminated by a signal"
  | timeout op seconds => op.name ++ " timed out after " ++ toString seconds ++ " seconds"

/-- The daemon error for a process that gave no output. -/
def ofProcess (op : Opcode) : Execution.Failure → DaemonError
  | .spawn program reason | .wait program reason => spawn program reason
  | .timeout seconds => timeout op seconds

end DaemonError

/-- A failed operation, with what the client wrote before its failure was noticed. -/
structure DaemonFailure where
  error : DaemonError
  captured : String
  deriving DecidableEq, Repr

/-- What the client wrote, and its exit status unless a signal ended it. -/
structure Reply where
  stdout : String
  stderr : String
  exitCode : Option Int
  deriving DecidableEq, Repr

namespace Reply

def ofOutput (output : Execution.Output) : Reply :=
  ⟨output.stdoutText, output.stderrText, output.exitCode⟩

/-- The error of a reply whose status the operation does not accept. -/
def error? (reply : Reply) (op : Opcode) : Option DaemonError :=
  match reply.exitCode with
  | some status => if op.accepts status then none else some (.exit op status)
  | none => some (.signal op)

theorem error?_eq_none_iff {reply : Reply} {op : Opcode} :
    reply.error? op = none ↔ ∃ status, reply.exitCode = some status ∧ op.accepts status = true := by
  unfold error?
  cases reply.exitCode with
  | none => simp
  | some status => by_cases h : op.accepts status = true <;> simp [h]

end Reply

end EditorBridge
