import EditorBridge.Command.Line
import EditorBridge.Finding.Report
import EditorBridge.Json.Reader
import EditorBridge.Session.Action
import EditorBridge.Session.Client

/-!
# Answering one command line

One round of the command loop (specification, 4.1).

Every line is first echoed on stderr.  Then each operation it asks for is carried out: the client's
diagnostics go to stderr as they are, its answer goes to stdout, and a marker line tells the editor
that a check or a suggestion is complete.  On a line that also asks for an inspection the report of
the check goes to stderr, because the editor takes the next line on stdout for the inspection's
answer.

A failed inspection is answered by an empty line and explained on stderr.  Any other failure ends
the session, after both streams have been flushed.
-/
namespace EditorBridge.Session

open EditorBridge.Action EditorBridge.Logging

variable {σ : Type}

/-- The line that completes a check or a suggestion. -/
def doneMarker : String := "# done!"

def echoLine (command : Command) (time : String) : String := "MYPY " ++ command.echo ++ " " ++ time

/-- The line that shows an inspection's result on stderr. -/
def resultLine (result : String) : String := "MYPY result: " ++ result

/-- The line that names a recovered error on stderr. -/
def errorLine (error : DaemonError) : String := "MYPY " ++ error.kind ++ ": " ++ error.message

def callCompleted (request : Request) (reply : Reply) : Record :=
  ⟨.info, .session, "Daemon call completed",
    [.plain "opcode" request.opcode.name, .plain "argument" request.argument,
      .exitCode reply.exitCode, .duration]⟩

def checkFinished (summary : Summary) : Record :=
  ⟨.info, .session, "Check finished",
    [.count "errors" summary.errors, .count "warnings" summary.warnings,
      .count "notes" summary.notes, .count "baselined" summary.baselined]⟩

/-- The record of a suggestion: how many there are, when they come as an array. -/
def suggestionReceived (symbol : String) (stdout : String) : Record :=
  match Json.parse? (Text.trim stdout.toList) with
  | some (.array items) =>
      ⟨.debug, .session, "Suggestion received",
        [.plain "symbol" symbol, .count "suggestions" items.length]⟩
  | some _ => ⟨.debug, .session, "Suggestion received", [.plain "symbol" symbol]⟩
  | none =>
      ⟨.warn, .session, "Suggestion output is not JSON",
        [.plain "symbol" symbol, .withheld "error"]⟩

def failureRecovered (error : DaemonError) : Record :=
  ⟨.warn, .session, "Recovered from daemon failure",
    [.quote "kind" error.kind, .plain "error" error.message]⟩

def ask (client : Client σ) (request : Request) : Action σ Reply := fun world =>
  let answer := client.invoke request world.client
  { trace := .called request :: answer.trace.map ClientEvent.toEvent
    world := { world with client := answer.state }
    result := answer.reply.mapError fun error => .daemon ⟨error, ""⟩ }

/-- Make a request, and pass the client's diagnostics on.  The exit status is not judged here. -/
def call (client : Client σ) (request : Request) : Action σ Reply := do
  let reply ← ask client request
  writeText .err reply.stderr
  log (callCompleted request reply)
  return reply

/-- Fail when the operation does not accept the exit status. -/
def settle (reply : Reply) (op : Opcode) (captured : String) : Action σ Unit :=
  match reply.error? op with
  | some error => fail (.daemon ⟨error, captured⟩)
  | none => done ()

/-- Check the project.  The report is passed on whatever the exit status. -/
def check (client : Client σ) (inspecting : Bool) : Action σ Unit := do
  let reply ← call client .check
  writeText (if inspecting then .err else .out) reply.stdout
  log (checkFinished (Summary.of (Finding.ofReport reply.stdout)))
  settle reply .check ""
  if inspecting then done () else writeLine .out doneMarker

def suggest (client : Client σ) (symbol : String) : Action σ Unit := do
  let reply ← call client (.suggest symbol)
  writeText .out reply.stdout
  settle reply .suggest ""
  log (suggestionReceived symbol reply.stdout)
  writeLine .out doneMarker

/-- Show the type of the expression at a location. -/
def inspect (client : Client σ) (location : String) : Action σ Unit := do
  let reply ← call client (.inspect location)
  settle reply .inspect reply.stdout
  writeLine .out (Text.trimmed reply.stdout)
  writeLine .err (resultLine (Text.trimmed reply.stdout))

def recover (failure : DaemonFailure) : Action σ Unit := do
  log (failureRecovered failure.error)
  writeLine .out ""
  writeLine .err (resultLine (Text.trimmed failure.captured))
  writeLine .err (errorLine failure.error)

/-- Flush both streams, stdout first. -/
def flushBoth : Action σ Unit := do
  flush .out
  flush .err

/-- End the session, leaving whatever was written visible to the editor. -/
def abandon (error : BridgeError) : Action σ Unit := do
  flushBoth
  fail error

def perform (client : Client σ) (command : Command) : Opcode → Action σ Unit
  | .check => check client (command.has .inspect)
  | .suggest => suggest client command.argument
  | .inspect => inspect client command.argument

def afterFailure (op : Opcode) : BridgeError → Action σ Unit
  | .daemon failure => if op.recoverable then recover failure else abandon (.daemon failure)
  | error => abandon error

/-- Carry out one operation of a command, and deal with its failure. -/
def answerOpcode (client : Client σ) (command : Command) (op : Opcode) : Action σ Unit :=
  orElse (perform client command op) (afterFailure op)

/-- Carry out operations of a command, in order, until one ends the session. -/
def answerOpcodes (client : Client σ) (command : Command) : List Opcode → Action σ Unit
  | [] => done ()
  | op :: rest => do
      answerOpcode client command op
      answerOpcodes client command rest

def answerLine (client : Client σ) (time : String) (line : String) : Action σ Unit := do
  let command := Command.parse line
  writeLine .err (echoLine command time)
  answerOpcodes client command command.opcodes
  flushBoth

end EditorBridge.Session
