import EditorBridge.Host.SystemError
import EditorBridge.Text.Utf8

/-!
# Output streams and their faults

An output stream takes bytes until its capacity is used up and flushes until the flush that fails.
A write is taken up to the capacity; when bytes are left over, the write has failed.
-/
namespace EditorBridge

inductive StreamName where
  | out
  | err
  deriving DecidableEq, Repr

def StreamName.name : StreamName → String
  | out => "out"
  | err => "err"

/-- Why reading or writing failed. -/
inductive StreamError where
  /-- The stream takes no more bytes. -/
  | closed (stream : StreamName)
  /-- The stream could not be flushed. -/
  | unflushed (stream : StreamName)
  /-- The input could not be read. -/
  | unread
  | system (error : Host.SystemError)
  | other (message : String)
  deriving DecidableEq, Repr

def StreamError.message : StreamError → String
  | closed stream => stream.name ++ " closed"
  | unflushed stream => stream.name ++ " flush failed"
  | unread => "input failed"
  | system error => error.message
  | other message => message

/-- The state of an output stream: what is left until it fails. -/
structure Sink where
  /-- The bytes it still takes; no number means that it never closes. -/
  capacity : Option Nat
  /-- Its next failing flush, counted from one; no number means that none fails. -/
  failingFlush : Option Nat
  deriving DecidableEq, Repr

namespace Sink

/-- A stream that never fails. -/
def healthy : Sink := ⟨none, none⟩

/-- How many of a number of bytes the stream takes. -/
def taken (sink : Sink) (size : Nat) : Nat := sink.capacity.elim size (min size)

def afterWrite (sink : Sink) (size : Nat) : Sink :=
  { sink with capacity := sink.capacity.map (· - size) }

def flushFails (sink : Sink) : Bool := sink.failingFlush = some 1

def afterFlush (sink : Sink) : Sink :=
  { sink with failingFlush := sink.failingFlush.bind fun k => if k ≤ 1 then none else some (k - 1) }

@[simp] theorem taken_healthy (size : Nat) : healthy.taken size = size := rfl

@[simp] theorem afterWrite_healthy (size : Nat) : healthy.afterWrite size = healthy := rfl

@[simp] theorem flushFails_healthy : healthy.flushFails = false := rfl

@[simp] theorem afterFlush_healthy : healthy.afterFlush = healthy := rfl

end Sink

end EditorBridge
