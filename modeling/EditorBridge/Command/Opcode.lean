/-!
# Opcodes

The operations that a command line can ask of the type-checking daemon, with the policy of each: the
exit statuses that count as success, and whether a failure ends the session (specification, 3 and
4.1).
-/
namespace EditorBridge

inductive Opcode where
  /-- An incremental check of the whole project. -/
  | check
  /-- A signature suggested for a symbol. -/
  | suggest
  /-- The type of the expression at a location. -/
  | inspect
  deriving DecidableEq, Repr

namespace Opcode

/-- All opcodes, in the order in which those of one line are carried out. -/
def all : List Opcode := [check, suggest, inspect]

/-- The token that selects an opcode, which is also the client's name for the operation. -/
def name : Opcode → String
  | check => "run"
  | suggest => "suggest"
  | inspect => "inspect"

def ofToken? (token : String) : Option Opcode := all.find? fun op => op.name = token

/-- Whether the session goes on after a failure.  An editor restarts the bridge after a failed check
or suggestion, but asks for types so often that a failed inspection must not cost it the session. -/
def recoverable : Opcode → Bool
  | check | suggest => false
  | inspect => true

/-- Whether an exit status counts as success.  A check that finds type errors exits with 1. -/
def accepts : Opcode → Int → Bool
  | check, status => status = 0 || status = 1
  | suggest, status | inspect, status => status = 0

theorem mem_all (op : Opcode) : op ∈ all := by cases op <;> decide

theorem ofToken?_name (op : Opcode) : ofToken? op.name = some op := by cases op <;> decide

end Opcode

end EditorBridge
