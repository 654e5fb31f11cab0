import EditorBridge.Daemon.Request
import EditorBridge.Logging.Record
import EditorBridge.Execution.Invocation
import EditorBridge.Session.Stream

/-!
# Events of a session

Everything that a session does to the world, in order.  Bytes count when a stream has taken them,
and a flush when it has succeeded; a read, a write or a flush that fails leaves its error.
-/
namespace EditorBridge

inductive Event where
  /-- The session starts to read a line.  At the very end it may know already that there is no more,
  because the line before had no line feed; then it waits for nothing. -/
  | reading (endSeen : Bool)
  | wrote (stream : StreamName) (bytes : Bytes)
  | flushed (stream : StreamName)
  | failed (error : StreamError)
  | called (request : Request)
  | spawned (invocation : Execution.Invocation) (timeout : Option Nat) (scratchExists : Bool)
  | logged (record : Logging.Record)
  deriving DecidableEq, Repr

namespace Event

def bytesOn (stream : StreamName) : Event → Bytes
  | wrote s bytes => if s = stream then bytes else []
  | _ => []

def request? : Event → Option Request
  | called request => some request
  | _ => none

def record? : Event → Option Logging.Record
  | logged record => some record
  | _ => none

/-- Whether an event is the start of a step: the session begins to wait for input. -/
def startsStep : Event → Bool
  | reading endSeen => !endSeen
  | _ => false

end Event

/-- Events in the order in which they happened. -/
abbrev Trace := List Event

namespace Trace

def bytesOn (stream : StreamName) (trace : Trace) : Bytes := trace.flatMap (Event.bytesOn stream)

def requests (trace : Trace) : List Request := trace.filterMap Event.request?

def records (trace : Trace) : List Logging.Record := trace.filterMap Event.record?

/-- The trace with neighbouring writes to one stream joined. -/
def joinWrites : Trace → Trace
  | [] => []
  | .wrote s bytes :: rest =>
      match joinWrites rest with
      | .wrote s' more :: rest' =>
          if s = s' then .wrote s (bytes ++ more) :: rest'
          else .wrote s bytes :: .wrote s' more :: rest'
      | rest' => .wrote s bytes :: rest'
  | event :: rest => event :: joinWrites rest

/-- The trace cut before each start of a step. -/
def steps : Trace → List Trace
  | [] => []
  | event :: rest =>
      match steps rest with
      | [] => [[event]]
      | step :: more =>
          if (step.head?.map Event.startsStep).getD false then [event] :: step :: more
          else (event :: step) :: more

@[simp] theorem bytesOn_append (stream : StreamName) (a b : Trace) :
    bytesOn stream (a ++ b) = bytesOn stream a ++ bytesOn stream b := by
  simp [bytesOn]

@[simp] theorem requests_append (a b : Trace) : requests (a ++ b) = requests a ++ requests b := by
  simp [requests]

@[simp] theorem records_append (a b : Trace) : records (a ++ b) = records a ++ records b := by
  simp [records]

end Trace

end EditorBridge
