import EditorBridge.Daemon.Client
import EditorBridge.Proofs.Session.Healthy

/-!
# Verdicts on suggestions

Once a suggestion is complete, the session logs a verdict on it: how many suggestions there are, or
that what the client wrote is not JSON.  Nothing else passes a verdict (`Action.Unjudging`), and on
healthy streams the verdicts of a session are those on the complete suggestions of its account, in
their order (`verdicts_serve`).
-/
namespace EditorBridge

open EditorBridge.Action EditorBridge.Session

variable {σ ρ α β : Type}

/-- The verdict on suggestions that came as an array. -/
def Session.suggestionsReceived (symbol : String) (number : Nat) : Logging.Record :=
  ⟨.debug, .session, "Suggestion received",
    [.plain "symbol" symbol, .count "suggestions" number]⟩

def Logging.Record.isVerdict (record : Logging.Record) : Bool :=
  record.origin = .session &&
    (record.message = "Suggestion received" || record.message = "Suggestion output is not JSON")

theorem Session.isVerdict_suggestionReceived (symbol stdout : String) :
    (suggestionReceived symbol stdout).isVerdict = true := by
  unfold suggestionReceived
  split <;> rfl

/-- The verdicts of a trace, in order. -/
def Trace.verdicts (trace : Trace) : List Logging.Record :=
  trace.records.filter Logging.Record.isVerdict

@[simp] theorem Trace.verdicts_append (a b : Trace) :
    verdicts (a ++ b) = verdicts a ++ verdicts b := by
  simp [verdicts]

def Exchange.suggested? (exchange : Exchange) : Option String :=
  match exchange.opcode with
  | .suggest => if exchange.failure? = none then some exchange.command.argument else none
  | _ => none

/-- The verdict on an exchange: a complete suggestion has one. -/
def Exchange.verdicts (exchange : Exchange) : List Logging.Record :=
  exchange.suggested?.toList.map fun symbol => suggestionReceived symbol exchange.report

/-- The symbol that a deed is a complete suggestion for, if it is one. -/
def Deed.suggested? : Deed → Option String
  | exchange e => e.suggested?
  | _ => none

def Deed.verdicts : Deed → List Logging.Record
  | exchange e => e.verdicts
  | _ => []

/-- What the client itself logs about a request. -/
def Client.ownRecords (client : Client σ) (state : σ) (request : Request) : List Logging.Record :=
  Trace.records ((client.invoke request state).trace.map ClientEvent.toEvent)

def Client.Impartial (client : Client σ) : Prop :=
  ∀ request state, (client.ownRecords state request).filter Logging.Record.isVerdict = []

/-- What the client program has to log is none of the session's records. -/
theorem Client.program_impartial (launcher : Launcher ρ) (config : Config) :
    (program launcher config).Impartial := by
  intro request site
  have prepared : Trace.verdicts
      ((ProgramClient.prepare config request site).2.map ClientEvent.toEvent) = [] := by
    cases request with
    | check =>
      simp only [ProgramClient.prepare, ProgramClient.ensureScratch]
      split
      · rfl
      · split
        · rfl
        · split <;> rfl
    | _ => rfl
  change Trace.verdicts (((program launcher config).invoke request site).trace.map _) = []
  simp only [program, ProgramClient.invoke]
  split <;>
  · simp only [List.map_append, Trace.verdicts_append, prepared]
    rfl

/-- An action that passes no verdict, whether it succeeds or not. -/
def Action.Unjudging (action : Action σ α) : Prop :=
  ∀ world, (action.run world).trace.verdicts = []

namespace Action.Unjudging

theorem bind {action : Action σ α} {next : α → Action σ β} (first : action.Unjudging)
    (second : ∀ a, (next a).Unjudging) : (action >>= next).Unjudging := by
  intro world
  cases h : (action.run world).result with
  | ok a =>
    rw [run_bind_ok h, Outcome.trace_after, Trace.verdicts_append, first, second a]
    rfl
  | error error =>
    rw [run_bind_error h]
    exact first world

theorem seq {step : Action σ Unit} {rest : Action σ β} (first : step.Unjudging)
    (second : rest.Unjudging) : (step >>= fun _ => rest).Unjudging :=
  first.bind fun _ => second

end Action.Unjudging

/-- What comes after a step that passes no verdict does all the judging. -/
theorem verdicts_seq {step : Action σ Unit} {rest : Action σ α} {world : World σ}
    {signs : List Sign} {state : σ} (silent : step.Unjudging)
    (yields : (step.run world).Yields signs state (.ok ())) :
    ((step >>= fun _ => rest).run world).trace.verdicts =
      (rest.run (.healthy state)).trace.verdicts := by
  rw [run_bind_ok yields.result_eq, yields.world_eq, Outcome.trace_after, Trace.verdicts_append,
    silent, List.nil_append]

/-- What is done about a failure adds no verdict. -/
theorem verdicts_orElse {action : Action σ α} {handler : BridgeError → Action σ α}
    (handled : ∀ error, (handler error).Unjudging) (world : World σ) :
    ((orElse action handler).run world).trace.verdicts = (action.run world).trace.verdicts := by
  cases h : (action.run world).result with
  | ok a => rw [run_orElse_ok h]
  | error error =>
    rw [run_orElse_error h, Outcome.trace_after, Trace.verdicts_append, handled error,
      List.append_nil]

section

variable (stream : StreamName)

theorem done_unjudging (a : α) : (done a : Action σ α).Unjudging := fun _ => rfl

theorem fail_unjudging (error : BridgeError) : (fail error : Action σ α).Unjudging := fun _ => rfl

theorem log_unjudging {record : Logging.Record} (other : record.isVerdict = false) :
    (log record : Action σ Unit).Unjudging := by
  intro world
  have logged : ((log record).run world).trace.records = [record] := rfl
  rw [Trace.verdicts, logged, List.filter_cons_of_neg (by simp [other]), List.filter_nil]

/-- Nothing is logged of what is written. -/
theorem records_write (bytes : Bytes) (world : World σ) :
    ((write stream bytes).run world).trace.records = [] := by
  simp only [Action.run, write]
  split <;> split <;> rfl

theorem records_flush (world : World σ) : ((flush stream).run world).trace.records = [] := by
  simp only [Action.run, flush]
  split <;> rfl

theorem write_unjudging (bytes : Bytes) : (write stream bytes : Action σ Unit).Unjudging := by
  intro world
  rw [Trace.verdicts, records_write, List.filter_nil]

theorem flush_unjudging : (flush stream : Action σ Unit).Unjudging := by
  intro world
  rw [Trace.verdicts, records_flush, List.filter_nil]

theorem writeText_unjudging (text : String) :
    (writeText stream text : Action σ Unit).Unjudging :=
  write_unjudging stream _

theorem writeLine_unjudging (text : String) :
    (writeLine stream text : Action σ Unit).Unjudging :=
  write_unjudging stream _

theorem flushBoth_unjudging : (flushBoth : Action σ Unit).Unjudging :=
  (flush_unjudging .out).seq (flush_unjudging .err)

theorem settle_unjudging (reply : Reply) (op : Opcode) (captured : String) :
    (settle reply op captured : Action σ Unit).Unjudging := by
  unfold settle
  split
  · exact fail_unjudging _
  · exact done_unjudging ()

theorem recover_unjudging (failure : DaemonFailure) :
    (recover failure : Action σ Unit).Unjudging :=
  (log_unjudging rfl).seq ((writeLine_unjudging .out _).seq
    ((writeLine_unjudging .err _).seq (writeLine_unjudging .err _)))

theorem abandon_unjudging (error : BridgeError) : (abandon error : Action σ Unit).Unjudging :=
  flushBoth_unjudging.seq (fail_unjudging error)

theorem afterFailure_unjudging (op : Opcode) (error : BridgeError) :
    (afterFailure op error : Action σ Unit).Unjudging := by
  unfold afterFailure
  split
  · split
    · exact recover_unjudging _
    · exact abandon_unjudging _
  · exact abandon_unjudging _

theorem await_unjudging (unreadable : Option Nat) (handled : Nat) (endSeen : Bool) :
    (await unreadable handled endSeen : Action σ Unit).Unjudging := by
  have begun : (emit (.reading endSeen) : Action σ Unit).Unjudging := fun _ => rfl
  refine begun.seq ?_
  split
  · exact fun _ => rfl
  · exact done_unjudging ()

end

section

variable {client : Client σ} (impartial : client.Impartial)
include impartial

theorem call_unjudging (request : Request) : (call client request).Unjudging := by
  have asked : (ask client request).Unjudging := fun world => impartial request world.client
  exact asked.bind fun reply => (writeText_unjudging .err _).seq
    ((log_unjudging rfl).seq (done_unjudging reply))

theorem check_unjudging (inspecting : Bool) : (check client inspecting).Unjudging := by
  have last :
      (if inspecting then done () else writeLine .out doneMarker : Action σ Unit).Unjudging := by
    cases inspecting with
    | true => exact done_unjudging ()
    | false => exact writeLine_unjudging .out doneMarker
  exact (call_unjudging impartial .check).bind fun reply => (writeText_unjudging _ _).seq
    ((log_unjudging rfl).seq ((settle_unjudging reply .check "").seq last))

theorem inspect_unjudging (location : String) : (inspect client location).Unjudging :=
  (call_unjudging impartial (.inspect location)).bind fun reply =>
    (settle_unjudging reply .inspect _).seq
      ((writeLine_unjudging .out _).seq (writeLine_unjudging .err _))

end

section

variable {client : Client σ} {state : σ}

/-- On healthy streams the records of a sequence are those of its parts. -/
theorem records_bind {action : Action σ α} {next : α → Action σ β} {world : World σ} {a : α}
    {signs : List Sign} {after : σ} (first : (action.run world).Yields signs after (.ok a)) :
    ((action >>= next).run world).trace.records =
      (action.run world).trace.records ++ ((next a).run (.healthy after)).trace.records := by
  rw [run_bind_ok first.result_eq, first.world_eq, Outcome.trace_after, Trace.records_append]

theorem records_writeText_bind (stream : StreamName) (text : String) (rest : Action σ α) :
    ((writeText stream text >>= fun _ => rest).run (.healthy state)).trace.records =
      (rest.run (.healthy state)).trace.records := by
  rw [records_bind (writeText_yields state stream text), writeText, records_write,
    List.nil_append]

theorem records_log_bind (record : Logging.Record) (rest : Action σ α) :
    ((log record >>= fun _ => rest).run (.healthy state)).trace.records =
      record :: (rest.run (.healthy state)).trace.records :=
  records_bind (log_yields state record)

/-- A call that returns is logged, after whatever the client logs about it. -/
theorem records_call {request : Request} {reply : Reply}
    (answered : (client.invoke request state).reply = .ok reply) :
    ((call client request).run (.healthy state)).trace.records =
      client.ownRecords state request ++ [callCompleted request reply] := by
  have asked := ask_yields client state request
  rw [answered] at asked
  have rest : ((writeText .err reply.stderr >>= fun _ => log (callCompleted request reply)
      >>= fun _ => done reply).run (.healthy (client.invoke request state).state)).trace.records =
        [callCompleted request reply] := by
    rw [records_writeText_bind, records_log_bind]
    rfl
  exact (records_bind asked).trans (congrArg _ rest)

/-- A suggestion that returns is logged, and then, if it is complete, the verdict on it. -/
theorem records_suggest {symbol : String} {reply : Reply}
    (answered : (client.invoke (.suggest symbol) state).reply = .ok reply) :
    ((suggest client symbol).run (.healthy state)).trace.records =
      client.ownRecords state (.suggest symbol) ++ callCompleted (.suggest symbol) reply ::
        if reply.error? .suggest = none then [suggestionReceived symbol reply.stdout] else [] := by
  let after := (client.invoke (.suggest symbol) state).state
  let last : Action σ Unit := do
    log (suggestionReceived symbol reply.stdout)
    writeLine .out doneMarker
  have judged : ((settle reply .suggest "" >>= fun _ => last).run (.healthy after)).trace.records =
      if reply.error? .suggest = none then [suggestionReceived symbol reply.stdout] else [] := by
    cases h : reply.error? .suggest with
    | none =>
      have accepted : settle (σ := σ) reply .suggest "" = done () := by simp only [settle, h]
      rw [accepted, if_pos rfl, records_bind (done_yields after ()), records_log_bind, writeLine,
        writeText, records_write]
      rfl
    | some error =>
      have refused : settle (σ := σ) reply .suggest "" = fail (.daemon ⟨error, ""⟩) := by
        simp only [settle, h]
      rw [refused, if_neg (by simp)]
      rfl
  have passed : ((writeText .out reply.stdout >>= fun _ => settle reply .suggest "" >>= fun _ =>
      last).run (.healthy after)).trace.records = _ :=
    (records_writeText_bind .out reply.stdout _).trans judged
  rw [List.append_cons, ← records_call answered, ← passed]
  exact records_bind (call_yields_reply answered)

/-- A suggestion is judged once it is complete, and then once. -/
theorem verdicts_suggest (impartial : client.Impartial) (command : Command) :
    ((suggest client command.argument).run (.healthy state)).trace.verdicts =
      Exchange.verdicts ⟨command, .suggest, (client.invoke (.suggest command.argument) state).reply⟩
        := by
  cases answered : (client.invoke (.suggest command.argument) state).reply with
  | error error =>
    have failed : (suggest client command.argument).run (.healthy state) = _ :=
      run_bind_error (call_yields_error answered).result_eq
    rw [failed]
    exact call_unjudging impartial (.suggest command.argument) _
  | ok reply =>
    have own := impartial (.suggest command.argument) state
    have completed : (callCompleted (.suggest command.argument) reply).isVerdict = false := rfl
    rw [Trace.verdicts, records_suggest answered, List.filter_append, own, List.nil_append,
      List.filter_cons_of_neg (by simp [completed]), Exchange.verdicts]
    simp only [Exchange.suggested?, Exchange.failure?_reply]
    split
    · simp [isVerdict_suggestionReceived, Exchange.report]
    · rfl

end

section

variable {client : Client σ} (impartial : client.Impartial) {state : σ}
include impartial

/-- Each operation passes the verdict on its exchange. -/
theorem verdicts_answerOpcode (command : Command) (op : Opcode) :
    ((answerOpcode client command op).run (.healthy state)).trace.verdicts =
      Exchange.verdicts
        ⟨command, op, (client.invoke (.about command.argument op) state).reply⟩ := by
  have performed : ((answerOpcode client command op).run (.healthy state)).trace.verdicts =
      ((perform client command op).run (.healthy state)).trace.verdicts :=
    verdicts_orElse (afterFailure_unjudging op) _
  rw [performed]
  cases op with
  | check => exact check_unjudging impartial _ _
  | suggest => exact verdicts_suggest impartial command
  | inspect => exact inspect_unjudging impartial _ _

/-- An outcome with the verdicts on the deeds up to the end of the session. -/
def Outcome.Judges (outcome : Outcome σ Unit) (deeds : List Deed) : Prop :=
  outcome.trace.verdicts = (Deed.upToFatal deeds).flatMap Deed.verdicts

omit impartial in
/-- What comes after deeds is judged only if they do not end the session. -/
theorem Outcome.Accords.judges_append {clock : Nat → String} {first rest : Action σ Unit}
    {deeds more : List Deed}
    (accords : (first.run (.healthy state)).Accords client clock state deeds)
    (begun : (first.run (.healthy state)).Judges deeds)
    (continued : ∀ after, after = client.stateAfter state (deeds.filterMap Deed.request?) →
      (rest.run (.healthy after)).Judges more) :
    ((first >>= fun _ => rest).run (.healthy state)).Judges (deeds ++ more) := by
  unfold Accords at accords
  unfold Judges at begun ⊢
  cases h : deeds.findSome? Deed.fatal? with
  | none =>
    rw [Deed.upToFatal_of_none h, h] at accords
    rw [Deed.upToFatal_of_none h] at begun
    rw [Deed.upToFatal_append_of_none h, List.flatMap_append, ← begun, ← continued _ rfl,
      run_bind_ok accords.result_eq, accords.world_eq, Outcome.trace_after, Trace.verdicts_append]
  | some error =>
    rw [h] at accords
    rw [Deed.upToFatal_append_of_some h, ← begun, run_bind_error accords.result_eq]

theorem answerOpcodes_judges (command : Command) (ops : List Opcode) :
    ((answerOpcodes client command ops).run (.healthy state)).Judges
      (client.carryOut state (ops.map (.request command))) := by
  induction ops generalizing state with
  | nil => rfl
  | cons op rest ih =>
    let deed : Deed :=
      .exchange ⟨command, op, (client.invoke (.about command.argument op) state).reply⟩
    have accords : ((answerOpcode client command op).run (.healthy state)).Accords client
        (fun _ => "") state [deed] :=
      (answerOpcode_yields client command state op).accords rfl
    have judged : ((answerOpcode client command op).run (.healthy state)).Judges [deed] := by
      rw [Outcome.Judges, Deed.upToFatal_singleton, List.flatMap_singleton]
      exact verdicts_answerOpcode impartial command op
    exact accords.judges_append judged fun after h => h ▸ ih

theorem takeTurn_judges (clock : Nat → String) (handled : Nat) (piece : Bytes) :
    ((takeTurn client clock none handled piece).run (.healthy state)).Judges
      (client.carryOut state (Errand.ofPiece handled piece)) := by
  obtain ⟨command, command_eq⟩ : ∃ command, command = Command.parse (Utf8.decodeLossy piece) :=
    ⟨_, rfl⟩
  have flushed (after : σ) : (flushBoth.run (.healthy after)).Judges [] := flushBoth_unjudging _
  have answered : ((answerOpcodes client command command.opcodes >>= fun _ => flushBoth).run
      (.healthy state)).Judges
        (client.carryOut state (command.opcodes.map (.request command))) := by
    have accords : ((answerOpcodes client command command.opcodes).run (.healthy state)).Accords
        client clock state (client.carryOut state (command.opcodes.map (.request command))) :=
      answerOpcodes_accords command command.opcodes
    have worked := accords.judges_append (answerOpcodes_judges impartial command command.opcodes)
      fun after _ => flushed after
    rwa [List.append_nil] at worked
  -- Neither the wait nor the echo passes a verdict.
  have echoed := (verdicts_seq (writeLine_unjudging .err (echoLine command (clock handled)))
    (writeLine_yields state .err _)).trans answered
  have waited := (verdicts_seq (await_unjudging none handled false)
    (await_yields state handled false)).trans echoed
  have told : client.carryOut state (Errand.ofPiece handled piece) =
      .line handled command
        :: client.carryOut state (command.opcodes.map (.request command)) := by
    rw [command_eq]
    rfl
  have alive : (Deed.line handled command).isFatal = false := rfl
  rw [told, Outcome.Judges, Deed.upToFatal_cons, alive, takeTurn, answerLine, ← command_eq]
  exact waited

theorem servePieces_judges (clock : Nat → String) (handled : Nat) (endSeen : Bool)
    (pieces : List Bytes) :
    ((servePieces client clock none handled endSeen pieces).run (.healthy state)).Judges
      (client.carryOut state (Errand.ofPieces handled pieces)) := by
  induction pieces generalizing state handled endSeen with
  | nil => exact ((await_unjudging none handled endSeen).seq (log_unjudging rfl)) _
  | cons piece rest ih =>
    rw [Errand.ofPieces_cons, Client.carryOut_append]
    have accords : ((takeTurn client clock none handled piece).run (.healthy state)).Accords client
        clock state (client.carryOut state (Errand.ofPiece handled piece)) :=
      takeTurn_accords handled piece
    exact accords.judges_append (takeTurn_judges impartial clock handled piece)
      fun after h => h ▸ ih ..

/-- The verdicts of a session are those on the complete suggestions of its account, in order. -/
theorem verdicts_serve (clock : Nat → String) (bytes : Bytes) :
    ((serve client clock (.ofBytes bytes)).run (.healthy state)).trace.verdicts =
      (client.account state bytes).flatMap Deed.verdicts :=
  servePieces_judges impartial clock 0 false (Input.pieces bytes)

end

end EditorBridge
