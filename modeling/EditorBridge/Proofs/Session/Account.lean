import EditorBridge.Session.Serve

/-!
# The account of a session

What a session should come to, told without its streams.  The input sets errands: to echo each line,
and then to make each request that the line asks for.  A client that is given all of them answers
one request after the other; this is its conversation.  The account of the session is the
conversation up to and including the first exchange that ends it.

Every deed of an account says what it puts on stdout and on stderr, and in which order it does so
(`Deed.stdout`, `Deed.stderr`, `Deed.signs`).  The time of day appears in the echo of a line and
nowhere else, so one account serves runs at different times.
-/
namespace EditorBridge

/-- What can be seen of a session from outside: that it starts to read a line, each byte that a
stream takes, and each request. -/
inductive Sign where
  | wait
  | byte (stream : StreamName) (value : UInt8)
  | call (request : Request)
  deriving DecidableEq, Repr

namespace Sign

def text (stream : StreamName) (text : String) : List Sign :=
  (Utf8.encode text).map (.byte stream)

def byteOn? (stream : StreamName) : Sign → Option UInt8
  | byte s value => if s = stream then some value else none
  | _ => none

def request? : Sign → Option Request
  | call request => some request
  | _ => none

@[simp] theorem byteOn?_wait (stream : StreamName) : byteOn? stream wait = none := rfl

@[simp] theorem byteOn?_call (stream : StreamName) (request : Request) :
    byteOn? stream (call request) = none := rfl

@[simp] theorem request?_wait : request? wait = none := rfl

@[simp] theorem request?_call (request : Request) : request? (call request) = some request := rfl

@[simp] theorem byteOn?_text (stream s : StreamName) (t : String) :
    (text s t).filterMap (byteOn? stream) = if s = stream then Utf8.encode t else [] := by
  by_cases h : s = stream <;> simp [text, List.filterMap_map, Function.comp_def, byteOn?, h]

@[simp] theorem request?_text (s : StreamName) (t : String) :
    (text s t).filterMap request? = [] := by
  simp [text, List.filterMap_map, Function.comp_def, request?]

@[simp] theorem count_wait_text (s : StreamName) (t : String) : (text s t).count wait = 0 := by
  simp [text, List.count_eq_zero]

@[simp] theorem text_append (stream : StreamName) (a b : String) :
    text stream (a ++ b) = text stream a ++ text stream b := by
  simp [text]

@[simp] theorem text_empty (stream : StreamName) : text stream "" = [] := rfl

end Sign

/-- What an event shows.  Flushes and log records are not seen, nor are failures. -/
def Event.signs : Event → List Sign
  | .reading _ => [.wait]
  | .wrote stream bytes => bytes.map (.byte stream)
  | .called request => [.call request]
  | _ => []

def Trace.signs (trace : Trace) : List Sign := trace.flatMap Event.signs

@[simp] theorem Trace.signs_append (a b : Trace) : signs (a ++ b) = signs a ++ signs b := by
  simp [signs]

@[simp] theorem Trace.signs_nil : signs [] = [] := rfl

@[simp] theorem Trace.signs_cons (event : Event) (trace : Trace) :
    signs (event :: trace) = event.signs ++ signs trace := rfl

/-- What a client does of its own accord is not seen. -/
@[simp] theorem Trace.signs_map_toEvent (events : List ClientEvent) :
    signs (events.map ClientEvent.toEvent) = [] := by
  induction events with
  | nil => rfl
  | cons event rest ih => cases event <;> simpa [ClientEvent.toEvent, Event.signs] using ih

/-- How often a session has started to read a line. -/
def Trace.readings (trace : Trace) : Nat := trace.signs.count .wait

/-- A request made for a command line, and what came of it. -/
structure Exchange where
  command : Command
  opcode : Opcode
  result : Except DaemonError Reply

namespace Exchange

/-- The request.  Its argument is the first token of the line; a check has none. -/
def request (exchange : Exchange) : Request := .about exchange.command.argument exchange.opcode

/-- The exit statuses with which an operation is complete. -/
def completing : Opcode → List Int
  | .check => [0, 1]
  | .suggest | .inspect => [0]

/-- Why the operation is not complete, if it is not. -/
def failure? (exchange : Exchange) : Option DaemonError :=
  match exchange.result with
  | .error error => some error
  | .ok reply =>
      match reply.exitCode with
      | none => some (.signal exchange.opcode)
      | some status =>
          if status ∈ completing exchange.opcode then none
          else some (.exit exchange.opcode status)

/-- The failure that ends the session, if there is one.  A failed inspection never does. -/
def fatal? (exchange : Exchange) : Option DaemonError :=
  match exchange.opcode with
  | .check | .suggest => exchange.failure?
  | .inspect => none

/-- What the client wrote on its stdout; nothing when it gave no reply. -/
def report (exchange : Exchange) : String :=
  match exchange.result with
  | .ok reply => reply.stdout
  | .error _ => ""

/-- What the client wrote on its stderr; nothing when it gave no reply. -/
def diagnostics (exchange : Exchange) : String :=
  match exchange.result with
  | .ok reply => reply.stderr
  | .error _ => ""

/-- The marker line, once the operation is complete. -/
def marker (exchange : Exchange) : String := if exchange.failure? = none then "# done!\n" else ""

def answer (exchange : Exchange) : String :=
  match exchange.opcode with
  | .check =>
      if exchange.command.has .inspect then "" else exchange.report ++ exchange.marker
  | .suggest => exchange.report ++ exchange.marker
  | .inspect =>
      if exchange.failure? = none then Text.trimmed exchange.report ++ "\n" else "\n"

/-- What the exchange puts on stderr after the client's diagnostics. -/
def remarks (exchange : Exchange) : String :=
  match exchange.opcode with
  | .check => if exchange.command.has .inspect then exchange.report else ""
  | .suggest => ""
  | .inspect =>
      "MYPY result: " ++ Text.trimmed exchange.report ++ "\n"
        ++ (exchange.failure?.elim "" fun error =>
          "MYPY " ++ error.kind ++ ": " ++ error.message ++ "\n")

/-- What the exchange shows, in order: the request, then the client's diagnostics, and only then
anything that the client wrote on its stdout. -/
def signs (exchange : Exchange) : List Sign :=
  .call exchange.request
    :: (Sign.text .err exchange.diagnostics ++ Sign.text .out exchange.answer
      ++ Sign.text .err exchange.remarks)

end Exchange

/-- One deed of an account. -/
inductive Deed where
  /-- A line, counted from zero, is read and echoed. -/
  | line (number : Nat) (command : Command)
  | exchange (exchange : Exchange)
  /-- The input is found to be at its end. -/
  | finish

namespace Deed

/-- The failure that ends the session, if there is one. -/
def fatal? : Deed → Option DaemonError
  | exchange e => e.fatal?
  | _ => none

def isFatal (deed : Deed) : Bool := deed.fatal?.isSome

/-- Whether the session starts to read a line: it finds one, or the end of the input. -/
def isReading : Deed → Bool
  | exchange _ => false
  | _ => true

def request? : Deed → Option Request
  | exchange e => some e.request
  | _ => none

/-- The echo of a line that is answered at a time of day. -/
def echo (command : Command) (time : String) : String :=
  "MYPY " ++ command.echo ++ " " ++ time ++ "\n"

def stdout : Deed → String
  | exchange e => e.answer
  | _ => ""

/-- What a deed puts on stderr, when line `n` is answered at the time `clock n`. -/
def stderr (clock : Nat → String) : Deed → String
  | line number command => echo command (clock number)
  | exchange e => e.diagnostics ++ e.remarks
  | finish => ""

/-- What a deed shows, in order. -/
def signs (clock : Nat → String) : Deed → List Sign
  | line number command => .wait :: Sign.text .err (echo command (clock number))
  | exchange e => e.signs
  | finish => [.wait]

/-- Deeds up to and including the first that ends the session. -/
def upToFatal (deeds : List Deed) : List Deed :=
  deeds.takeWhile (!·.isFatal) ++ (deeds.find? (·.isFatal)).toList

@[simp] theorem upToFatal_nil : upToFatal [] = [] := rfl

theorem upToFatal_cons (deed : Deed) (rest : List Deed) :
    upToFatal (deed :: rest) = deed :: (if deed.isFatal then [] else upToFatal rest) := by
  unfold upToFatal
  by_cases h : deed.isFatal <;> simp [h]

@[simp] theorem upToFatal_singleton (deed : Deed) : upToFatal [deed] = [deed] := by
  simp [upToFatal_cons]

/-- Deeds up to the end of a session are the first of them. -/
theorem upToFatal_isPrefix (deeds : List Deed) : upToFatal deeds <+: deeds := by
  induction deeds with
  | nil => exact List.nil_prefix
  | cons deed rest ih =>
    rw [upToFatal_cons]
    split
    · exact ⟨rest, rfl⟩
    · exact (List.prefix_cons_inj deed).mpr ih

/-- Deeds that follow a failure which ends the session do not matter. -/
theorem upToFatal_append_of_some {deeds : List Deed} {error : DaemonError}
    (h : deeds.findSome? fatal? = some error) (more : List Deed) :
    upToFatal (deeds ++ more) = upToFatal deeds := by
  induction deeds with
  | nil => simp at h
  | cons deed rest ih =>
    rw [List.cons_append, upToFatal_cons, upToFatal_cons]
    cases alive : deed.fatal? with
    | none =>
      have h' : rest.findSome? fatal? = some error := by simpa [alive] using h
      simp [isFatal, alive, ih h']
    | some _ => simp [isFatal, alive]

/-- Without such a failure, every deed counts. -/
theorem upToFatal_append_of_none {deeds : List Deed} (h : deeds.findSome? fatal? = none)
    (more : List Deed) : upToFatal (deeds ++ more) = deeds ++ upToFatal more := by
  rw [List.findSome?_eq_none_iff] at h
  induction deeds with
  | nil => rfl
  | cons deed rest ih =>
    have alive : deed.isFatal = false := by simp [isFatal, h deed]
    have h' : ∀ e ∈ rest, e.fatal? = none := fun e he => h e (List.mem_cons_of_mem _ he)
    rw [List.cons_append, upToFatal_cons, alive, ih h']
    rfl

theorem upToFatal_of_none {deeds : List Deed} (h : deeds.findSome? fatal? = none) :
    upToFatal deeds = deeds := by
  simpa using upToFatal_append_of_none h []

end Deed

/-- One thing to do for an input. -/
inductive Errand where
  | line (number : Nat) (command : Command)
  | request (command : Command) (opcode : Opcode)
  | finish

namespace Errand

/-- The errands that a piece of the input sets: the echo, and then the requests in their order. -/
def ofPiece (number : Nat) (piece : Bytes) : List Errand :=
  let command := Command.parse (Utf8.decodeLossy piece)
  .line number command ::
    ([Opcode.check, .suggest, .inspect].filter command.has).map (.request command)

/-- The errands of the pieces of an input, of which `handled` came before. -/
def ofPieces (handled : Nat) (pieces : List Bytes) : List Errand :=
  ((pieces.zipIdx handled).flatMap fun (piece, number) => ofPiece number piece) ++ [.finish]

theorem ofPieces_cons (handled : Nat) (piece : Bytes) (rest : List Bytes) :
    ofPieces handled (piece :: rest) = ofPiece handled piece ++ ofPieces (handled + 1) rest := by
  simp [ofPieces, List.zipIdx_cons]

end Errand

namespace Client

variable {σ : Type}

/-- What comes of errands when the client, from a state on, answers each request of them. -/
def carryOut (client : Client σ) : σ → List Errand → List Deed
  | _, [] => []
  | state, .line number command :: rest => .line number command :: client.carryOut state rest
  | state, .request command op :: rest =>
      let answer := client.invoke (.about command.argument op) state
      .exchange ⟨command, op, answer.reply⟩ :: client.carryOut answer.state rest
  | state, .finish :: rest => .finish :: client.carryOut state rest

def stateAfter (client : Client σ) (state : σ) (requests : List Request) : σ :=
  requests.foldl (fun state request => (client.invoke request state).state) state

/-- The errands done so far matter to the others only through the client's state. -/
theorem carryOut_append (client : Client σ) (state : σ) (errands more : List Errand) :
    let deeds := client.carryOut state errands
    client.carryOut state (errands ++ more) =
      deeds ++ client.carryOut (client.stateAfter state (deeds.filterMap Deed.request?)) more := by
  intro deeds
  unfold deeds
  induction errands generalizing state with
  | nil => rfl
  | cons errand rest ih =>
    cases errand <;>
      simp [carryOut, ih, List.filterMap_cons, Deed.request?, stateAfter, Exchange.request]

/-- What comes of an input when each request of it is made. -/
def conversation (client : Client σ) (state : σ) (bytes : Bytes) : List Deed :=
  client.carryOut state (Errand.ofPieces 0 (Input.pieces bytes))

/-- What a session does for an input: nothing comes after the first failure that ends it. -/
def account (client : Client σ) (state : σ) (bytes : Bytes) : List Deed :=
  Deed.upToFatal (client.conversation state bytes)

end Client

end EditorBridge
