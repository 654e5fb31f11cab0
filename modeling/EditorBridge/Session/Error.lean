import EditorBridge.Config.Error
import EditorBridge.Daemon.Reply
import EditorBridge.Session.Stream

/-!
# Errors that end the bridge

The errors and exit statuses of the specification, 7.

Each error has an exit status, and a report for the user: what went wrong, what that means, and what
to try.
-/
namespace EditorBridge

inductive BridgeError where
  | stream (error : StreamError)
  | daemon (failure : DaemonFailure)
  | config (error : ConfigError)
  deriving DecidableEq, Repr

inductive ExitStatus where
  | success
  /-- A stream failed. -/
  | streams
  /-- The flags or the configuration are unusable. -/
  | usage
  /-- The daemon took too long. -/
  | timeout
  /-- The daemon failed in another way. -/
  | daemon
  deriving DecidableEq, Repr

def ExitStatus.number : ExitStatus → Nat
  | success => 0
  | streams => 1
  | usage => 2
  | timeout => 10
  | daemon => 70

namespace BridgeError

/-- The name of the configuration file, as advice to the user gives it. -/
def configFile : String := ".dmypy-bridge.toml"

def message : BridgeError → String
  | stream error => "I/O error on bridge streams: " ++ error.message
  | daemon failure => failure.error.message
  | config error => error.message

def userMessage : BridgeError → String
  | stream error => "Lost contact with the editor: " ++ error.message
  | daemon failure => "mypy daemon call failed: " ++ failure.error.message
  | config error => "Configuration error: " ++ error.message

/-- What the error means, when there is more to say. -/
def context : BridgeError → Option String
  | stream _ => some "Reading commands or writing results failed"
  | daemon failure =>
      match failure.error with
      | .spawn program _ => some ("The client program `" ++ program ++ "` could not be started")
      | .exit op _ | .signal op =>
          some ("`" ++ op.name ++ "` failures end the bridge so the editor can restart it")
      | .timeout _ _ => some "The daemon did not answer within the configured timeout"
  | config error =>
      match error.causes with
      | [] => none
      | causes => some (": ".intercalate causes)

def suggestions : BridgeError → List String
  | stream _ => ["Check that the editor plugin is still running"]
  | daemon failure =>
      match failure.error with
      | .spawn _ _ =>
          ["Install mypy in the project environment (`pip install mypy`)",
            "Point --program or [daemon] program at the dmypy client"]
      | .exit _ _ | .signal _ =>
          ["Run `dmypy status` in the project to inspect the daemon",
            "Restart the daemon with `dmypy restart`"]
      | .timeout _ _ =>
          ["Increase --timeout or [daemon] timeout_secs", "Restart the daemon with `dmypy restart`"]
  | config _ =>
      ["Check " ++ configFile ++ " against the documented [daemon] and [logging] keys",
        "Run with --help to see the accepted flags"]

def report (error : BridgeError) : String :=
  "Error: " ++ error.userMessage ++ "\n"
    ++ (error.context.elim "" fun context => "\nContext: " ++ context ++ "\n")
    ++ "\nSuggestions:\n"
    ++ String.join (error.suggestions.map fun suggestion => "  • " ++ suggestion ++ "\n")

def exitStatus : BridgeError → ExitStatus
  | stream _ => .streams
  | config _ => .usage
  | daemon failure =>
      match failure.error with
      | .timeout _ _ => .timeout
      | _ => .daemon

end BridgeError

end EditorBridge
