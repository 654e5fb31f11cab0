import EditorBridge.Daemon.Reply
import EditorBridge.Session.Event

/-!
# Clients

A session talks to the daemon through a client.  What a client does to answer a request is its own
affair: it has a state, it may run programs and it may log.  The streams of the session are out of
its reach.
-/
namespace EditorBridge

/-- One thing that a client does of its own accord. -/
inductive ClientEvent where
  | spawned (invocation : Execution.Invocation) (timeout : Option Nat) (scratchExists : Bool)
  | logged (record : Logging.Record)
  deriving DecidableEq, Repr

def ClientEvent.toEvent : ClientEvent → Event
  | spawned invocation timeout scratchExists => .spawned invocation timeout scratchExists
  | logged record => .logged record

structure Answer (σ : Type) where
  trace : List ClientEvent
  state : σ
  reply : Except DaemonError Reply

structure Client (σ : Type) where
  invoke : Request → σ → Answer σ

/-- The error of a script that has run out of replies. -/
def DaemonError.noReplyLeft : DaemonError := .spawn "script" "no reply left"

/-- A client that answers from a list of replies, whatever is asked. -/
def Client.scripted : Client (List (Except DaemonError Reply)) where
  invoke
    | _, [] => ⟨[], [], .error .noReplyLeft⟩
    | _, reply :: rest => ⟨[], rest, reply⟩

end EditorBridge
