import EditorBridge.Session.Answering
import EditorBridge.Text.Lines

/-!
# Serving a whole input

The command loop (specification, 4.1).

The input is cut after each line feed, and the pieces are answered one by one, each decoded on its
own.  The session ends well at the end of the input, and with an error at the first line that ends
it or cannot be read.  Nothing read for one line is visible to the next.
-/
namespace EditorBridge

/-- An input: its bytes, and the line, counted from zero, that cannot be read. -/
structure Input where
  bytes : Bytes
  unreadable : Option Nat
  deriving DecidableEq, Repr

namespace Input

def ofBytes (bytes : Bytes) : Input := ⟨bytes, none⟩

def lineFeed : UInt8 := 10

/-- The pieces of the input, each ending in its line feed. -/
def pieces (bytes : Bytes) : List Bytes := Text.cutAfter lineFeed bytes

def terminated (piece : Bytes) : Bool := piece.getLast? = some lineFeed

end Input

namespace Session

open EditorBridge.Action EditorBridge.Logging

variable {σ : Type}

def inputClosed (handled : Nat) : Record :=
  ⟨.info, .session, "Input closed, stopping", [.count "lines" handled]⟩

/-- Start to read a line.  Once the end of the input has been seen, there is nothing left to read
and nothing that could fail. -/
def await (unreadable : Option Nat) (handled : Nat) (endSeen : Bool) : Action σ Unit := do
  emit (.reading endSeen)
  if !endSeen && unreadable == some handled then fault .unread else done ()

/-- Wait for a line and answer it. -/
def takeTurn (client : Client σ) (clock : Nat → String) (unreadable : Option Nat) (handled : Nat)
    (piece : Bytes) : Action σ Unit := do
  await unreadable handled false
  answerLine client (clock handled) (Utf8.decodeLossy piece)

/-- Answer the pieces of an input, of which `handled` came before. -/
def servePieces (client : Client σ) (clock : Nat → String) (unreadable : Option Nat) :
    Nat → Bool → List Bytes → Action σ Unit
  | handled, endSeen, [] => do
      await unreadable handled endSeen
      log (inputClosed handled)
  | handled, _, piece :: rest => do
      takeTurn client clock unreadable handled piece
      servePieces client clock unreadable (handled + 1) (!Input.terminated piece) rest

section

variable {client : Client σ} {clock : Nat → String} {unreadable : Option Nat} {handled : Nat}
  {piece : Bytes} {world : World σ}

theorem run_servePieces_error {error : BridgeError}
    (h : ((takeTurn client clock unreadable handled piece).run world).result = .error error)
    (endSeen : Bool) (rest : List Bytes) :
    (servePieces client clock unreadable handled endSeen (piece :: rest)).run world =
      ⟨((takeTurn client clock unreadable handled piece).run world).trace,
        ((takeTurn client clock unreadable handled piece).run world).world, .error error⟩ :=
  run_bind_error h

theorem run_servePieces_ok
    (h : ((takeTurn client clock unreadable handled piece).run world).result = .ok ())
    (endSeen : Bool) (rest : List Bytes) :
    (servePieces client clock unreadable handled endSeen (piece :: rest)).run world =
      ((servePieces client clock unreadable (handled + 1) (!Input.terminated piece) rest).run
        ((takeTurn client clock unreadable handled piece).run world).world).after
          ((takeTurn client clock unreadable handled piece).run world).trace :=
  run_bind_ok h

end

/-- Answer an input to its end.  The clock gives the time of day at which each line is answered. -/
def serve (client : Client σ) (clock : Nat → String) (input : Input) : Action σ Unit :=
  servePieces client clock input.unreadable 0 false (Input.pieces input.bytes)

end Session

end EditorBridge
