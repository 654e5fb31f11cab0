/-!
# Findings

One finding of the type checker, as a line of its report gives it.  The rendering here is the form
that the checker writes; the reader beside it accepts that form.
-/
namespace EditorBridge

/-- How much a finding weighs. -/
inductive Severity where
  | error
  | warning
  | note
  | baseline
  deriving DecidableEq, Repr

namespace Severity

def all : List Severity := [error, warning, note, baseline]

def name : Severity → String
  | error => "error"
  | warning => "warning"
  | note => "note"
  | baseline => "baseline"

end Severity

/-- A finding of the type checker. -/
structure Finding where
  path : String
  line : Nat
  column : Nat
  /-- Line and column of the end, when the report gives both. -/
  stop : Option (Nat × Nat)
  severity : Severity
  message : String
  /-- The error code in brackets after the message. -/
  code : Option String
  deriving DecidableEq, Repr

namespace Finding

/-- Line and column as the report writes them, each followed by a colon. -/
def renderPosition (line column : Nat) : String := toString line ++ ":" ++ toString column ++ ":"

def render (finding : Finding) : String :=
  finding.path ++ ":" ++ renderPosition finding.line finding.column
    ++ (finding.stop.elim "" fun (line, column) => renderPosition line column)
    ++ " " ++ finding.severity.name ++ ": " ++ finding.message
    ++ (finding.code.elim "" fun code => "  [" ++ code ++ "]")

end Finding

/-- How many findings of each severity there are. -/
structure Summary where
  errors : Nat
  warnings : Nat
  notes : Nat
  baselined : Nat
  deriving DecidableEq, Repr

namespace Summary

def count (severity : Severity) (findings : List Finding) : Nat :=
  findings.countP fun finding => finding.severity = severity

def of (findings : List Finding) : Summary :=
  ⟨count .error findings, count .warning findings, count .note findings, count .baseline findings⟩

end Summary

end EditorBridge
