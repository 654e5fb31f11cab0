import EditorBridge.Text.Utf8

/-!
# Invocations

A program to run, with its arguments and its working directory.  There is no shell in between: the
arguments reach the program as they are.  Programs, arguments and directories are byte strings.
-/
namespace EditorBridge.Execution

structure Invocation where
  program : Bytes
  arguments : List Bytes
  /-- The working directory, when it is not that of the caller. -/
  directory : Option Bytes
  deriving DecidableEq, Repr

namespace Invocation

/-- The program's name for a human reader. -/
def programText (invocation : Invocation) : String := Utf8.decodeLossy invocation.program

/-- Program and arguments for a human reader, separated by spaces and not quoted. -/
def render (invocation : Invocation) : String :=
  " ".intercalate ((invocation.program :: invocation.arguments).map Utf8.decodeLossy)

end Invocation

end EditorBridge.Execution
