import EditorBridge.Proofs.Session.Healthy

/-!
# Transcripts of whole sessions

What a session on healthy streams puts on stdout and on stderr, which requests it makes and how it
ends, for every input and every client.  All of it is read off the account of the input: bytes and
requests are views of the signs that the session shows (`bytesOn_eq`, `requests_eq`), and these are
the signs of the account's deeds.
-/
namespace EditorBridge

variable {σ : Type}

theorem Trace.bytesOn_eq (stream : StreamName) (trace : Trace) :
    trace.bytesOn stream = trace.signs.filterMap (Sign.byteOn? stream) := by
  induction trace with
  | nil => rfl
  | cons event rest ih =>
    have shown : event.bytesOn stream = event.signs.filterMap (Sign.byteOn? stream) := by
      cases event with
      | wrote s bytes =>
        by_cases h : s = stream <;>
          simp [Event.bytesOn, Event.signs, List.filterMap_map, Function.comp_def, Sign.byteOn?, h]
      | _ => rfl
    rw [signs_cons, List.filterMap_append, ← shown, ← ih]
    rfl

theorem Trace.requests_eq (trace : Trace) :
    trace.requests = trace.signs.filterMap Sign.request? := by
  induction trace with
  | nil => rfl
  | cons event rest ih =>
    have shown : event.request?.toList = event.signs.filterMap Sign.request? := by
      cases event with
      | wrote s bytes =>
        simp [Event.request?, Event.signs, List.filterMap_map, Function.comp_def, Sign.request?]
      | _ => rfl
    rw [signs_cons, List.filterMap_append, ← shown, ← ih]
    cases h : event.request? <;> simp [requests, h]

namespace Deed

theorem bytesOn_out_signs (clock : Nat → String) (deed : Deed) :
    (deed.signs clock).filterMap (Sign.byteOn? .out) = Utf8.encode deed.stdout := by
  cases deed <;> simp [signs, Exchange.signs, stdout, List.filterMap_cons]

theorem bytesOn_err_signs (clock : Nat → String) (deed : Deed) :
    (deed.signs clock).filterMap (Sign.byteOn? .err) = Utf8.encode (deed.stderr clock) := by
  cases deed <;> simp [signs, Exchange.signs, stderr, List.filterMap_cons]

theorem requests_flatMap_signs (clock : Nat → String) (deeds : List Deed) :
    (deeds.flatMap (signs clock)).filterMap Sign.request? = deeds.filterMap request? := by
  induction deeds with
  | nil => rfl
  | cons deed rest ih =>
    rw [List.flatMap_cons, List.filterMap_append, ih]
    cases deed <;> simp [signs, Exchange.signs, request?, List.filterMap_cons]

theorem count_wait_flatMap_signs (clock : Nat → String) (deeds : List Deed) :
    (deeds.flatMap (signs clock)).count .wait = deeds.countP isReading := by
  induction deeds with
  | nil => rfl
  | cons deed rest ih =>
    rw [List.flatMap_cons, List.count_append, ih, List.countP_cons]
    cases deed <;> simp [signs, Exchange.signs, isReading, Nat.add_comm]

end Deed

namespace Errand

def request? : Errand → Option Request
  | request command op => some (.about command.argument op)
  | _ => none

def isReading : Errand → Bool
  | request _ _ => false
  | _ => true

/-- The requests that a piece of the input asks for, each once: a check before a suggestion, and a
suggestion before an inspection. -/
def requests (piece : Bytes) : List Request :=
  let command := Command.parse (Utf8.decodeLossy piece)
  ([Opcode.check, .suggest, .inspect].filter command.has).map (.about command.argument)

theorem requests_ofPieces (handled : Nat) (pieces : List Bytes) :
    (ofPieces handled pieces).filterMap request? = pieces.flatMap requests := by
  induction pieces generalizing handled with
  | nil => rfl
  | cons piece rest ih =>
    have asked : (ofPiece handled piece).filterMap request? = requests piece := by
      simp [ofPiece, requests, request?, List.filterMap_cons, List.filterMap_map, Function.comp_def]
    rw [ofPieces_cons, List.filterMap_append, asked, ih, List.flatMap_cons]

theorem readings_ofPieces (handled : Nat) (pieces : List Bytes) :
    (ofPieces handled pieces).countP isReading = pieces.length + 1 := by
  induction pieces generalizing handled with
  | nil => rfl
  | cons piece rest ih =>
    have once : (ofPiece handled piece).countP isReading = 1 := by
      simp [ofPiece, isReading, List.countP_cons, List.countP_map, Function.comp_def]
    rw [ofPieces_cons, List.countP_append, once, ih, List.length_cons, Nat.add_comm 1]

end Errand

namespace Client

/-- Which requests there are does not depend on the client's answers. -/
theorem requests_carryOut (client : Client σ) (state : σ) (errands : List Errand) :
    (client.carryOut state errands).filterMap Deed.request? =
      errands.filterMap Errand.request? := by
  induction errands generalizing state with
  | nil => rfl
  | cons errand rest ih =>
    cases errand <;>
      simp [carryOut, List.filterMap_cons, Deed.request?, Errand.request?, Exchange.request, ih]

theorem readings_carryOut (client : Client σ) (state : σ) (errands : List Errand) :
    (client.carryOut state errands).countP Deed.isReading = errands.countP Errand.isReading := by
  induction errands generalizing state with
  | nil => rfl
  | cons errand rest ih =>
    cases errand <;> simp [carryOut, List.countP_cons, Deed.isReading, Errand.isReading, ih]

end Client

namespace Session

/-- The bytes on stdout are those of the account's deeds and nothing else. -/
theorem stdout_transcript (client : Client σ) (clock : Nat → String) (state : σ)
    (bytes : Bytes) :
    ((serve client clock (.ofBytes bytes)).run (.healthy state)).trace.bytesOn .out =
      (client.account state bytes).flatMap fun deed => Utf8.encode deed.stdout := by
  rw [Trace.bytesOn_eq, (serve_accords client clock state bytes).signs_eq,
    List.filterMap_flatMap]
  simp only [Deed.bytesOn_out_signs, Client.account]

/-- The bytes on stderr are those of the account's deeds.  On both streams together, everything
comes in the order of the account: a line is echoed before its first request, and of each request
the client's diagnostics come before anything that the client wrote on its stdout. -/
theorem stderr_transcript (client : Client σ) (clock : Nat → String) (state : σ)
    (bytes : Bytes) :
    let session := (serve client clock (.ofBytes bytes)).run (.healthy state)
    session.trace.bytesOn .err =
        ((client.account state bytes).flatMap fun deed => Utf8.encode (deed.stderr clock)) ∧
      session.trace.signs = (client.account state bytes).flatMap (Deed.signs clock) := by
  intro session
  have shown := (serve_accords client clock state bytes).signs_eq
  refine ⟨?_, shown⟩
  rw [Trace.bytesOn_eq, shown, List.filterMap_flatMap]
  simp only [Deed.bytesOn_err_signs, Client.account]

/-- The requests of a session are those that the lines ask for, up to the first failure that ends
it.  That failure alone decides how the session ends, and no line after it is read. -/
theorem requests_and_verdict (client : Client σ) (clock : Nat → String) (state : σ)
    (bytes : Bytes) :
    let session := (serve client clock (.ofBytes bytes)).run (.healthy state)
    let conversation := client.conversation state bytes
    let made := Deed.upToFatal conversation
    let failure? := conversation.findSome? Deed.fatal?
    conversation.filterMap Deed.request? = (Input.pieces bytes).flatMap Errand.requests ∧
      conversation.countP Deed.isReading = (Input.pieces bytes).length + 1 ∧
      session.trace.requests = made.filterMap Deed.request? ∧
      session.trace.readings = made.countP Deed.isReading ∧
      session.result = failure?.elim (.ok ()) (fun error => .error (.daemon ⟨error, ""⟩)) ∧
      ∀ error : BridgeError, session.result = .error error →
        ∃ failure, error = .daemon ⟨failure, ""⟩ ∧ failure? = some failure ∧
          error.exitStatus.number =
            match failure with
            | .timeout _ _ => 10
            | _ => 70 := by
  intro session conversation made failure?
  have accord := serve_accords client clock state bytes
  have shown : session.trace.signs = made.flatMap (Deed.signs clock) := accord.signs_eq
  have ended : session.result =
      failure?.elim (.ok ()) (fun error => .error (.daemon ⟨error, ""⟩)) := accord.result_eq
  refine ⟨?_, ?_, ?_, ?_, ended, ?_⟩
  · exact (Client.requests_carryOut client state _).trans (Errand.requests_ofPieces 0 _)
  · exact (Client.readings_carryOut client state _).trans (Errand.readings_ofPieces 0 _)
  · rw [Trace.requests_eq, shown, Deed.requests_flatMap_signs]
  · rw [Trace.readings, shown, Deed.count_wait_flatMap_signs]
  · intro error h
    rw [ended] at h
    cases hf : failure? with
    | none => simp [hf] at h
    | some failure =>
      simp only [hf, Option.elim_some, Except.error.injEq] at h
      subst h
      refine ⟨failure, rfl, rfl, ?_⟩
      cases failure <;> rfl

end Session

end EditorBridge
