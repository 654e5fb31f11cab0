import EditorBridge.Execution.Output
import EditorBridge.Json.Value

/-!
# Answers of the stand-in client

The stand-in knows no types.  A scenario decides what it says, by the command it is given; only a
suggestion depends on anything else, because it names the symbol.
-/
namespace EditorBridge.StandIn

inductive Scenario where
  | clean
  /-- A check finds two errors. -/
  | typeErrors
  /-- An inspection finds no expression. -/
  | inspectFailure
  /-- Every command fails. -/
  | crash
  /-- Like a clean run, but only after a minute. -/
  | hang
  deriving DecidableEq, Repr

/-- The scenario of a name.  Every name that means nothing else means a clean run. -/
def Scenario.ofName : String → Scenario
  | "type-errors" => typeErrors
  | "inspect-fail" => inspectFailure
  | "crash" => crash
  | "hang" => hang
  | _ => clean

def output (stdout stderr : String) (status : Int) : Execution.Output :=
  ⟨Utf8.encode stdout, Utf8.encode stderr, some status⟩

/-- The report of a check without errors. -/
def cleanReport : String := "Success: no issues found in 2 source files\n"

def errorReport : String :=
  "pkg/mod.py:3:12:3:13: error: Incompatible return value type (got \"int\", expected \"str\")  "
    ++ "[return-value]\n"
    ++ "pkg/mod.py:7:1:7:4: error: Name \"foo\" is not defined  [name-defined]\n"
    ++ "Found 2 errors in 1 file (checked 2 source files)\n"

/-- The suggestions for a symbol: always the same one. -/
def suggestions (symbol : String) : Json :=
  .array [.object [
    ("func_name".toList, .string symbol.toList),
    ("line".toList, .number ['1']),
    ("path".toList, .string "pkg/mod.py".toList),
    ("samples".toList, .number ['0']),
    ("signature".toList, .object [
      ("arg_types".toList, .array [.string "int".toList]),
      ("return_type".toList, .string "str".toList)])]]

def suggestionLine (symbol : String) : String :=
  String.ofList ((suggestions symbol).render ++ ['\n'])

def inspection : String := "  \"builtins.int\"  \n"

def answer (scenario : Scenario) (command : List String) : Execution.Output :=
  if scenario = .crash then output "" "Daemon crashed!\n" 2
  else match command with
    | "run" :: _ =>
        if scenario = .typeErrors then output errorReport "" 1 else output cleanReport "" 0
    | "suggest" :: rest => output (suggestionLine (rest.headD "")) "" 0
    | "inspect" :: _ =>
        if scenario = .inspectFailure then
          output "" "Can't find expression at span 9:1 to 9:2\n" 2
        else output inspection "" 0
    | other => output "" ("dmypy: error: invalid choice: '" ++ other.headD "" ++ "'\n") 2

end EditorBridge.StandIn
