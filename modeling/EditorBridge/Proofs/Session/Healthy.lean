import EditorBridge.Proofs.Session.Account

/-!
# Sessions on healthy streams

On streams that never fail, what a session shows is determined by its client alone.  Each action
has one lemma that says what it shows, which state it leaves the client in and what its result is;
the lemmas are chained along the actions.  At the end, a session on an input shows exactly the
account of that input (`serve_accords`).
-/
namespace EditorBridge

open EditorBridge.Action EditorBridge.Session

variable {σ α β : Type}

/-- A world whose streams never fail. -/
def World.healthy (client : σ) : World σ := ⟨.healthy, .healthy, client⟩

/-- An outcome on healthy streams: what it shows, the client's state, and the result. -/
structure Outcome.Yields (outcome : Outcome σ α) (signs : List Sign) (client : σ)
    (result : Except BridgeError α) : Prop where
  signs_eq : outcome.trace.signs = signs
  world_eq : outcome.world = .healthy client
  result_eq : outcome.result = result

namespace Outcome.Yields

variable {action : Action σ α} {next : α → Action σ β} {handler : BridgeError → Action σ α}
  {world : World σ} {a : α} {error : BridgeError} {signs signs' : List Sign} {client client' : σ}

/-- The signs may be written in another way. -/
theorem of_eq {outcome : Outcome σ α} {result : Except BridgeError α}
    (yields : outcome.Yields signs client result) (same : signs = signs') :
    outcome.Yields signs' client result :=
  same ▸ yields

theorem bind {result : Except BridgeError β}
    (first : (action.run world).Yields signs client (.ok a))
    (second : ((next a).run (.healthy client)).Yields signs' client' result) :
    ((action >>= next).run world).Yields (signs ++ signs') client' result := by
  rw [run_bind_ok first.result_eq, first.world_eq]
  exact ⟨by simp [Outcome.after, first.signs_eq, second.signs_eq], second.world_eq,
    second.result_eq⟩

/-- A step that yields no value, and another after it. -/
theorem seq {step : Action σ Unit} {rest : Action σ β} {result : Except BridgeError β}
    (first : (step.run world).Yields signs client (.ok ()))
    (second : (rest.run (.healthy client)).Yields signs' client' result) :
    ((step >>= fun _ => rest).run world).Yields (signs ++ signs') client' result := by
  rw [run_bind_ok first.result_eq, first.world_eq]
  exact ⟨by simp [Outcome.after, first.signs_eq, second.signs_eq], second.world_eq,
    second.result_eq⟩

theorem bind_error (first : (action.run world).Yields signs client (.error error)) :
    ((action >>= next).run world).Yields signs client (.error error) := by
  rw [run_bind_error first.result_eq]
  exact ⟨first.signs_eq, first.world_eq, rfl⟩

theorem orElse_ok (first : (action.run world).Yields signs client (.ok a)) :
    ((orElse action handler).run world).Yields signs client (.ok a) := by
  rw [run_orElse_ok first.result_eq]
  exact first

theorem orElse_error {result : Except BridgeError α}
    (first : (action.run world).Yields signs client (.error error))
    (second : ((handler error).run (.healthy client)).Yields signs' client' result) :
    ((orElse action handler).run world).Yields (signs ++ signs') client' result := by
  rw [run_orElse_error first.result_eq, first.world_eq]
  exact ⟨by simp [Outcome.after, first.signs_eq, second.signs_eq], second.world_eq,
    second.result_eq⟩

end Outcome.Yields

section

variable (client : Client σ) (state : σ) (stream : StreamName)

theorem done_yields (a : α) :
    ((done a : Action σ α).run (.healthy state)).Yields [] state (.ok a) :=
  ⟨rfl, rfl, rfl⟩

theorem fail_yields (error : BridgeError) :
    ((fail error : Action σ α).run (.healthy state)).Yields [] state (.error error) :=
  ⟨rfl, rfl, rfl⟩

theorem log_yields (record : Logging.Record) :
    ((log record).run (.healthy state)).Yields [] state (.ok ()) :=
  ⟨rfl, rfl, rfl⟩

theorem flush_yields : ((flush stream).run (.healthy state)).Yields [] state (.ok ()) := by
  cases stream <;> exact ⟨rfl, rfl, rfl⟩

/-- A healthy stream takes every byte. -/
theorem run_write_healthy (bytes : Bytes) :
    (write stream bytes).run (.healthy state) =
      ⟨if bytes.length = 0 then [] else [.wrote stream bytes], .healthy state, .ok ()⟩ := by
  cases stream <;>
    simp [write, Action.run, World.sink, World.setSink, World.healthy]

theorem write_yields (bytes : Bytes) :
    ((write stream bytes).run (.healthy state)).Yields (bytes.map (.byte stream)) state
      (.ok ()) := by
  rw [run_write_healthy]
  refine ⟨?_, rfl, rfl⟩
  cases bytes with
  | nil => rfl
  | cons byte rest => simp [Event.signs]

theorem writeText_yields (text : String) :
    ((writeText stream text).run (.healthy state)).Yields (Sign.text stream text) state (.ok ()) :=
  write_yields state stream _

theorem writeLine_yields (text : String) :
    ((writeLine stream text).run (.healthy state)).Yields (Sign.text stream (text ++ "\n")) state
      (.ok ()) :=
  writeText_yields state stream _

theorem flushBoth_yields : (flushBoth.run (.healthy state)).Yields [] state (.ok ()) :=
  (flush_yields state .out).seq (flush_yields state .err)

theorem abandon_yields (error : BridgeError) :
    ((abandon error).run (.healthy state)).Yields [] state (.error error) :=
  (flushBoth_yields state).seq (fail_yields state error)

theorem ask_yields (request : Request) :
    ((ask client request).run (.healthy state)).Yields [.call request]
      (client.invoke request state).state
      ((client.invoke request state).reply.mapError fun error => .daemon ⟨error, ""⟩) :=
  ⟨by simp [ask, Action.run, World.healthy, Event.signs], rfl, rfl⟩

end

section

variable {client : Client σ} {state : σ} {request : Request}

theorem call_yields_reply {reply : Reply} (h : (client.invoke request state).reply = .ok reply) :
    ((call client request).run (.healthy state)).Yields
      (.call request :: Sign.text .err reply.stderr) (client.invoke request state).state
      (.ok reply) := by
  have asked := ask_yields client state request
  rw [h] at asked
  have said := writeText_yields (client.invoke request state).state .err reply.stderr
  have logged := log_yields (client.invoke request state).state (callCompleted request reply)
  exact (asked.bind (said.seq (logged.seq (done_yields _ reply)))).of_eq (by simp)

theorem call_yields_error {error : DaemonError}
    (h : (client.invoke request state).reply = .error error) :
    ((call client request).run (.healthy state)).Yields [.call request]
      (client.invoke request state).state (.error (.daemon ⟨error, ""⟩)) := by
  have asked := ask_yields client state request
  rw [h] at asked
  exact asked.bind_error

/-- What follows the judgement of a status happens when the operation accepts it. -/
theorem settle_yields {reply : Reply} {op : Opcode} {captured : String}
    {rest : Action σ Unit} {signs : List Sign}
    (accepted : (rest.run (.healthy state)).Yields signs state (.ok ())) :
    ((settle reply op captured >>= fun _ => rest).run (.healthy state)).Yields
      (if reply.error? op = none then signs else []) state
      ((reply.error? op).elim (.ok ()) fun error => .error (.daemon ⟨error, captured⟩)) := by
  cases h : reply.error? op with
  | none =>
    have settled : (settle reply op captured).run (.healthy state) =
        (done ()).run (.healthy state) := by simp only [settle, h]
    have passed := done_yields state ()
    rw [← settled] at passed
    simpa using passed.seq accepted
  | some error =>
    have settled : (settle reply op captured).run (.healthy state) =
        (fail (.daemon ⟨error, captured⟩)).run (.healthy state) := by simp only [settle, h]
    have stopped := fail_yields (α := Unit) state (.daemon ⟨error, captured⟩)
    rw [← settled] at stopped
    simpa using stopped.bind_error

end

/-- How a session ends after a failure, if there was one.  Nothing is captured of an operation
whose output has been passed on. -/
def Session.verdict (failure? : Option DaemonError) : Except BridgeError Unit :=
  failure?.elim (.ok ()) fun error => .error (.daemon ⟨error, ""⟩)

/-- An exchange fails by its status as the reply to the operation does. -/
theorem Exchange.failure?_reply (command : Command) (op : Opcode) (reply : Reply) :
    failure? ⟨command, op, .ok reply⟩ = reply.error? op := by
  obtain ⟨stdout, stderr, exitCode⟩ := reply
  cases exitCode with
  | none => rfl
  | some status => cases op <;> simp [failure?, Reply.error?, completing, Opcode.accepts]

/-- The marker line is written when the status is accepted. -/
theorem Exchange.text_marker (command : Command) (op : Opcode) (reply : Reply) :
    Sign.text .out (marker ⟨command, op, .ok reply⟩) =
      if reply.error? op = none then Sign.text .out (doneMarker ++ "\n") else [] := by
  rw [marker, failure?_reply]
  split <;> rfl

/-- Without a reply, a check or a suggestion has nothing to pass on. -/
theorem Exchange.signs_error (command : Command) (op : Opcode) (error : DaemonError)
    (h : op ≠ .inspect) :
    signs ⟨command, op, .error error⟩ = [.call (.about command.argument op)] := by
  cases op <;>
    simp_all [signs, request, answer, remarks, diagnostics, report, marker, failure?]

section

variable (command : Command) (reply : Reply)

theorem Exchange.signs_check :
    signs ⟨command, .check, .ok reply⟩ =
      .call .check :: (Sign.text .err reply.stderr
        ++ if command.has .inspect then Sign.text .err reply.stdout
          else Sign.text .out reply.stdout
            ++ if reply.error? .check = none then Sign.text .out (doneMarker ++ "\n") else []) := by
  by_cases inspecting : command.has .inspect = true <;>
    simp [signs, request, Request.about, diagnostics, answer, remarks, report, text_marker,
      inspecting]

theorem Exchange.signs_suggest :
    signs ⟨command, .suggest, .ok reply⟩ =
      .call (.suggest command.argument) :: (Sign.text .err reply.stderr
        ++ (Sign.text .out reply.stdout
          ++ if reply.error? .suggest = none then Sign.text .out (doneMarker ++ "\n") else [])) := by
  simp [signs, request, Request.about, diagnostics, answer, remarks, report, text_marker]

theorem Exchange.signs_inspect (h : reply.error? .inspect = none) :
    signs ⟨command, .inspect, .ok reply⟩ =
      .call (.inspect command.argument) :: (Sign.text .err reply.stderr
        ++ (Sign.text .out (Text.trimmed reply.stdout ++ "\n")
          ++ Sign.text .err (resultLine (Text.trimmed reply.stdout) ++ "\n"))) := by
  have succeeded : failure? ⟨command, .inspect, .ok reply⟩ = none := by
    rw [failure?_reply, h]
  simp only [signs, answer, remarks, succeeded, if_true, Option.elim_none, String.append_empty,
    List.append_assoc]
  rfl

/-- A failed inspection is explained by two lines, whatever the client had written. -/
theorem Exchange.signs_inspect_failed (result : Except DaemonError Reply) {error : DaemonError}
    (h : failure? ⟨command, .inspect, result⟩ = some error) :
    signs ⟨command, .inspect, result⟩ =
      .call (request ⟨command, .inspect, result⟩)
        :: (Sign.text .err (diagnostics ⟨command, .inspect, result⟩)
          ++ (Sign.text .out "\n"
            ++ Sign.text .err
              (resultLine (Text.trimmed (report ⟨command, .inspect, result⟩)) ++ "\n")
            ++ Sign.text .err (errorLine error ++ "\n"))) := by
  simp [signs, answer, remarks, h, resultLine, errorLine]

end

section

variable (client : Client σ) (command : Command) (state : σ)

theorem check_yields :
    let answer := client.invoke .check state
    let exchange : Exchange := ⟨command, .check, answer.reply⟩
    ((check client (command.has .inspect)).run (.healthy state)).Yields exchange.signs answer.state
      (verdict exchange.failure?) := by
  intro answer exchange
  cases h : answer.reply with
  | error error =>
    simp only [exchange, h]
    rw [Exchange.signs_error command .check error (by decide)]
    exact (call_yields_error h).bind_error
  | ok reply =>
    simp only [exchange, h, Exchange.failure?_reply]
    have called := call_yields_reply h
    have said := writeText_yields answer.state (if command.has .inspect then .err else .out)
      reply.stdout
    have logged := log_yields answer.state
      (checkFinished (Summary.of (Finding.ofReport reply.stdout)))
    by_cases inspecting : command.has .inspect = true
    · have last := done_yields answer.state ()
      simp only [inspecting, if_true] at said ⊢
      refine (called.bind (said.seq (logged.seq (settle_yields last)))).of_eq ?_
      simp [Exchange.signs_check, inspecting]
    · have last := writeLine_yields answer.state .out doneMarker
      simp only [inspecting] at said ⊢
      refine (called.bind (said.seq (logged.seq (settle_yields last)))).of_eq ?_
      simp [Exchange.signs_check, inspecting]

theorem suggest_yields :
    let answer := client.invoke (.suggest command.argument) state
    let exchange : Exchange := ⟨command, .suggest, answer.reply⟩
    ((suggest client command.argument).run (.healthy state)).Yields exchange.signs answer.state
      (verdict exchange.failure?) := by
  intro answer exchange
  cases h : answer.reply with
  | error error =>
    simp only [exchange, h]
    rw [Exchange.signs_error command .suggest error (by decide)]
    exact (call_yields_error h).bind_error
  | ok reply =>
    simp only [exchange, h, Exchange.failure?_reply]
    have called := call_yields_reply h
    have said := writeText_yields answer.state .out reply.stdout
    have logged := log_yields answer.state (suggestionReceived command.argument reply.stdout)
    have last := writeLine_yields answer.state .out doneMarker
    refine (called.bind (said.seq (settle_yields (logged.seq last)))).of_eq ?_
    simp [Exchange.signs_suggest]

/-- An inspection that fails shows nothing of its own yet, but keeps what the client wrote. -/
theorem inspect_yields :
    let answer := client.invoke (.inspect command.argument) state
    let exchange : Exchange := ⟨command, .inspect, answer.reply⟩
    ((inspect client command.argument).run (.healthy state)).Yields
      (if exchange.failure? = none then exchange.signs
        else .call exchange.request :: Sign.text .err exchange.diagnostics)
      answer.state
      (exchange.failure?.elim (.ok ()) fun error => .error (.daemon ⟨error, exchange.report⟩)) := by
  intro answer exchange
  cases h : answer.reply with
  | error error =>
    simp only [exchange, h]
    exact (call_yields_error h).bind_error
  | ok reply =>
    simp only [exchange, h, Exchange.failure?_reply]
    have called := call_yields_reply h
    have answered := writeLine_yields answer.state .out (Text.trimmed reply.stdout)
    have shown := writeLine_yields answer.state .err (resultLine (Text.trimmed reply.stdout))
    refine (called.bind (settle_yields (answered.seq shown))).of_eq ?_
    cases hs : reply.error? .inspect with
    | none =>
      rw [if_pos rfl, if_pos rfl, Exchange.signs_inspect command reply hs, List.cons_append]
    | some error => simp [Exchange.request, Request.about, Exchange.diagnostics]

theorem recover_yields (failure : DaemonFailure) :
    ((recover failure).run (.healthy state)).Yields
      (Sign.text .out "\n" ++ Sign.text .err (resultLine (Text.trimmed failure.captured) ++ "\n")
        ++ Sign.text .err (errorLine failure.error ++ "\n"))
      state (.ok ()) := by
  have logged := log_yields state (failureRecovered failure.error)
  have answered := writeLine_yields state .out ""
  have shown := writeLine_yields state .err (resultLine (Text.trimmed failure.captured))
  have named := writeLine_yields state .err (errorLine failure.error)
  exact (logged.seq (answered.seq (shown.seq named))).of_eq (by simp)

/-- A failure that the session does not survive changes nothing of what was shown. -/
theorem answerOpcode_yields_perform {op : Opcode} {signs : List Sign} {after : σ}
    {failure? : Option DaemonError} (h : op.recoverable = false)
    (performed : ((perform client command op).run (.healthy state)).Yields signs after
      (verdict failure?)) :
    ((answerOpcode client command op).run (.healthy state)).Yields signs after
      (verdict failure?) := by
  cases failure? with
  | none => exact performed.orElse_ok
  | some error =>
    have handled : afterFailure op (.daemon ⟨error, ""⟩) = abandon (σ := σ) (.daemon ⟨error, ""⟩) :=
      by simp only [afterFailure, h, Bool.false_eq_true, if_false]
    have abandoned := abandon_yields after (.daemon ⟨error, ""⟩)
    rw [← handled] at abandoned
    exact (performed.orElse_error abandoned).of_eq (by simp)

/-- An operation, with what is done about its failure, shows its exchange. -/
theorem answerOpcode_yields (op : Opcode) :
    let answer := client.invoke (.about command.argument op) state
    let exchange : Exchange := ⟨command, op, answer.reply⟩
    ((answerOpcode client command op).run (.healthy state)).Yields exchange.signs answer.state
      (verdict exchange.fatal?) := by
  intro answer exchange
  cases op with
  | check => exact answerOpcode_yields_perform client command state rfl (check_yields ..)
  | suggest => exact answerOpcode_yields_perform client command state rfl (suggest_yields ..)
  | inspect =>
    have performed : ((perform client command .inspect).run (.healthy state)).Yields
        (if exchange.failure? = none then exchange.signs
          else .call exchange.request :: Sign.text .err exchange.diagnostics)
        answer.state
        (exchange.failure?.elim (.ok ()) fun error => .error (.daemon ⟨error, exchange.report⟩)) :=
      inspect_yields client command state
    cases h : exchange.failure? with
    | none =>
      rw [h] at performed
      exact performed.orElse_ok
    | some error =>
      rw [h] at performed
      -- The handler carries on in the state that the failed request left.
      have recovered : ((afterFailure .inspect (.daemon ⟨error, exchange.report⟩)).run
          (.healthy answer.state)).Yields _ answer.state (.ok ()) :=
        recover_yields answer.state ⟨error, exchange.report⟩
      refine (performed.orElse_error recovered).of_eq ?_
      rw [Exchange.signs_inspect_failed command _ h, if_neg (by simp), List.cons_append]

end

/-- An action does what deeds say, up to the first failure that ends the session. -/
def Outcome.Accords (outcome : Outcome σ Unit) (client : Client σ) (clock : Nat → String)
    (state : σ) (deeds : List Deed) : Prop :=
  outcome.Yields ((Deed.upToFatal deeds).flatMap (Deed.signs clock))
    (client.stateAfter state ((Deed.upToFatal deeds).filterMap Deed.request?))
    (verdict (deeds.findSome? Deed.fatal?))

section

variable {client : Client σ} {clock : Nat → String} {state : σ}

/-- Actions in sequence do what their deeds say in sequence. -/
theorem Outcome.Accords.append {first rest : Action σ Unit} {deeds more : List Deed}
    (begun : (first.run (.healthy state)).Accords client clock state deeds)
    (continued : ∀ after, after = client.stateAfter state (deeds.filterMap Deed.request?) →
      (rest.run (.healthy after)).Accords client clock after more) :
    ((first >>= fun _ => rest).run (.healthy state)).Accords client clock state
      (deeds ++ more) := by
  unfold Accords at begun ⊢
  -- Whether the rest runs at all is decided by the first fatal exchange of the deeds so far.
  cases h : deeds.findSome? Deed.fatal? with
  | none =>
    rw [Deed.upToFatal_of_none h, h] at begun
    have ended := begun.seq (continued _ rfl)
    simpa [Deed.upToFatal_append_of_none h, h, Client.stateAfter] using ended
  | some error =>
    have failed : (deeds ++ more).findSome? Deed.fatal? = some error := by
      simp [List.findSome?_append, h]
    rw [h] at begun
    rw [Deed.upToFatal_append_of_some h, failed]
    exact begun.bind_error

/-- What is seen of one deed. -/
theorem Outcome.Yields.accords {action : Action σ Unit} {deed : Deed} {after : σ}
    (yields : (action.run (.healthy state)).Yields (deed.signs clock) after
      (verdict deed.fatal?))
    (reached : after = client.stateAfter state deed.request?.toList) :
    (action.run (.healthy state)).Accords client clock state [deed] := by
  subst reached
  unfold Accords
  cases hf : deed.fatal? <;> cases hr : deed.request? <;> simpa [hf, hr] using yields

theorem answerOpcodes_accords (command : Command) (ops : List Opcode) :
    ((answerOpcodes client command ops).run (.healthy state)).Accords client clock state
      (client.carryOut state (ops.map (.request command))) := by
  induction ops generalizing state with
  | nil => exact done_yields state ()
  | cons op rest ih =>
    have answered : ((answerOpcode client command op).run (.healthy state)).Accords client clock
        state [.exchange ⟨command, op, (client.invoke (.about command.argument op) state).reply⟩] :=
      (answerOpcode_yields client command state op).accords rfl
    exact answered.append fun after h => h ▸ ih

theorem await_yields (state : σ) (handled : Nat) (endSeen : Bool) :
    ((await none handled endSeen).run (.healthy state)).Yields [.wait] state (.ok ()) := by
  have seen : ((emit (.reading endSeen)).run (.healthy state)).Yields [.wait] state (.ok ()) :=
    ⟨rfl, rfl, rfl⟩
  have readable : (!endSeen && (none : Option Nat) == some handled) = false := by simp
  unfold await
  rw [readable]
  exact seen.seq (done_yields state ())

/-- The echo of a line comes before anything else that the line asks for. -/
theorem Outcome.Accords.line {rest : Action σ Unit} {deeds : List Deed}
    (answered : (rest.run (.healthy state)).Accords client clock state deeds) (number : Nat)
    (command : Command) :
    ((await none number false >>= fun _ =>
      writeLine .err (echoLine command (clock number)) >>= fun _ => rest).run
        (.healthy state)).Accords client clock state (.line number command :: deeds) := by
  have waited := await_yields state number false
  have echoed := writeLine_yields state .err (echoLine command (clock number))
  have whole := waited.seq (echoed.seq answered)
  have alive : (Deed.line number command).isFatal = false := rfl
  have shown : (Deed.upToFatal (.line number command :: deeds)).flatMap (Deed.signs clock) =
      [.wait] ++ (Sign.text .err (echoLine command (clock number) ++ "\n")
        ++ (Deed.upToFatal deeds).flatMap (Deed.signs clock)) := by
    simp [Deed.upToFatal_cons, alive, Deed.signs, Deed.echo, echoLine]
  have asked : (Deed.upToFatal (.line number command :: deeds)).filterMap Deed.request? =
      (Deed.upToFatal deeds).filterMap Deed.request? := by
    simp [Deed.upToFatal_cons, alive, List.filterMap_cons, Deed.request?]
  unfold Accords
  rw [shown, asked]
  exact whole

/-- Once its line has been echoed, a command is answered by all its requests in their order. -/
theorem answerOpcodes_flushBoth_accords (command : Command) :
    ((answerOpcodes client command command.opcodes >>= fun _ => flushBoth).run
      (.healthy state)).Accords client clock state
        (client.carryOut state (command.opcodes.map (.request command))) := by
  have answered : ((answerOpcodes client command command.opcodes).run (.healthy state)).Accords
      client clock state (client.carryOut state (command.opcodes.map (.request command))) :=
    answerOpcodes_accords command command.opcodes
  have flushed : ∀ after, (flushBoth.run (.healthy after)).Accords client clock after [] :=
    flushBoth_yields
  have worked := answered.append fun after _ => flushed after
  rwa [List.append_nil] at worked

/-- A turn does what its piece of the input sets as errands. -/
theorem takeTurn_accords (handled : Nat) (piece : Bytes) :
    ((takeTurn client clock none handled piece).run (.healthy state)).Accords client clock state
      (client.carryOut state (Errand.ofPiece handled piece)) := by
  exact (answerOpcodes_flushBoth_accords _).line handled
    (Command.parse (Utf8.decodeLossy piece))

theorem servePieces_accords (handled : Nat) (endSeen : Bool) (pieces : List Bytes) :
    ((servePieces client clock none handled endSeen pieces).run (.healthy state)).Accords client
      clock state (client.carryOut state (Errand.ofPieces handled pieces)) := by
  induction pieces generalizing state handled endSeen with
  | nil =>
    have waited := await_yields state handled endSeen
    have logged := log_yields state (inputClosed handled)
    have finished : ((servePieces client clock none handled endSeen []).run
        (.healthy state)).Yields (Deed.finish.signs clock) state (verdict Deed.finish.fatal?) :=
      waited.seq logged
    exact finished.accords rfl
  | cons piece rest ih =>
    -- The client is in the state that this line's requests left it in when the next one is read.
    rw [Errand.ofPieces_cons, Client.carryOut_append]
    exact (takeTurn_accords handled piece).append fun after h => h ▸ ih ..

end

/-- A session on healthy streams does what its conversation says, up to the first failure that
ends it. -/
theorem serve_accords (client : Client σ) (clock : Nat → String) (state : σ) (bytes : Bytes) :
    ((serve client clock (.ofBytes bytes)).run (.healthy state)).Accords client clock state
      (client.conversation state bytes) :=
  servePieces_accords 0 false (Input.pieces bytes)

end EditorBridge
