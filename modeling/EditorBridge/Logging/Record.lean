/-!
# Log records

What the bridge tells its log (specification, 9.1).  A record belongs to the part of the bridge it comes from; its fields
keep their order, and a field knows whether its text is to be quoted.
-/
namespace EditorBridge.Logging

/-- How important a record is, from the most to the least. -/
inductive Level where
  | error
  | warn
  | info
  | debug
  | trace
  deriving DecidableEq, Repr

namespace Level

/-- The position of a level: a threshold admits the levels up to its own. -/
def rank : Level → Nat
  | error => 1
  | warn => 2
  | info => 3
  | debug => 4
  | trace => 5

def name : Level → String
  | error => "ERROR"
  | warn => "WARN"
  | info => "INFO"
  | debug => "DEBUG"
  | trace => "TRACE"

end Level

/-- The part of the bridge that a record comes from. -/
inductive Origin where
  | startup
  | client
  | session
  deriving DecidableEq, Repr

/-- The hierarchical name of an origin, by which directives select it. -/
def Origin.path : Origin → List String
  | startup => ["dmypy_bridge", "cli", "run"]
  | client => ["dmypy_bridge", "daemon"]
  | session => ["dmypy_bridge", "bridge"]

def Origin.name (origin : Origin) : String := "::".intercalate origin.path

inductive Showing where
  /-- As its text. -/
  | plain
  /-- As its text between double quotes. -/
  | quoted
  /-- As a measured duration, which is filled in when the record is shown. -/
  | measured
  /-- Not at all: directives can ask for the field, but its text is told to nobody. -/
  | withheld
  deriving DecidableEq, Repr

structure Field where
  name : String
  text : String
  showing : Showing
  deriving DecidableEq, Repr

namespace Field

def plain (name text : String) : Field := ⟨name, text, .plain⟩

/-- A field whose text is shown between double quotes. -/
def quote (name text : String) : Field := ⟨name, text, .quoted⟩

def count (name : String) (n : Nat) : Field := plain name (toString n)

def duration : Field := ⟨"duration_ms", "", .measured⟩

/-- A field of which only the presence matters. -/
def withheld (name : String) : Field := ⟨name, "", .withheld⟩

def isTold (field : Field) : Bool := field.showing = .plain || field.showing = .quoted

def exitCode (code : Option Int) : Field :=
  plain "exit_code" (code.elim "None" fun status => "Some(" ++ toString status ++ ")")

end Field

structure Record where
  level : Level
  origin : Origin
  message : String
  fields : List Field
  deriving DecidableEq, Repr

end EditorBridge.Logging
