import EditorBridge.Command.Opcode

/-!
# Requests

What the bridge asks of the daemon's client, and the client's arguments for it.  A check always has
the same arguments; the argument of the other requests is one element of the list, whatever
characters it has.
-/
namespace EditorBridge

/-- One request to the daemon. -/
inductive Request where
  | check
  | suggest (symbol : String)
  | inspect (location : String)
  deriving DecidableEq, Repr

namespace Request

/-- A file that exists only so that the client has a file to check beside the project directory. -/
def scratchFile : String := ".mypy_cache/__mypy_plugin_temp__.py"

def reportFlags : List String :=
  ["--show-error-end", "--no-pretty", "--hide-error-code-links", "--hide-error-context"]

/-- What is checked: the project and the scratch file. -/
def checkTargets : List String := [".", scratchFile]

def opcode : Request → Opcode
  | check => .check
  | suggest _ => .suggest
  | inspect _ => .inspect

/-- The text the request is about; a check has none. -/
def argument : Request → String
  | check => ""
  | suggest symbol => symbol
  | inspect location => location

def arguments : Request → List String
  | check => ["run", "--"] ++ reportFlags ++ checkTargets
  | suggest symbol => ["suggest", symbol, "--json"]
  | inspect location => ["inspect", location]

def about (argument : String) : Opcode → Request
  | .check => check
  | .suggest => suggest argument
  | .inspect => inspect argument

@[simp] theorem opcode_about (argument : String) (op : Opcode) :
    (about argument op).opcode = op := by
  cases op <;> rfl

end Request

end EditorBridge
