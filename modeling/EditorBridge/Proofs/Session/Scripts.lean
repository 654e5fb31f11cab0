import EditorBridge.Proofs.Session.Faults
import EditorBridge.Proofs.Session.Transcript
import Mathlib.Data.List.Basic

/-!
# Clients and their scripts

All that a session sees of its client are the replies.  So a client can be replaced by its script,
the list of the replies that it gives to the requests of the input: the session conducts itself in
the same way, on the same streams, whatever the client does of its own accord and however the
streams fail (`serve_plays`).

The session over the client is related to the one over its script along the sequence of each action,
together with the requests that are still to come.  What the client itself does in the meantime is
determined by its state and by the requests made so far, one after the other.
-/
namespace EditorBridge

open EditorBridge.Action EditorBridge.Session

variable {σ α β : Type}

/-- Whether an event is a read, a write, a flush, a failure of a stream or a request.  Records are
left out, because a client may log them as well. -/
def Event.isConduct : Event → Bool
  | .spawned .. | .logged _ => false
  | _ => true

/-- What a session does to its streams and asks of its client, in order. -/
def Trace.conduct (trace : Trace) : Trace := trace.filter Event.isConduct

/-- Whether an event is a request, or the start of a program that a client runs to answer it. -/
def Event.isDealing : Event → Bool
  | .called _ | .spawned .. => true
  | _ => false

/-- The requests, and the programs run to answer them, in order. -/
def Trace.dealings (trace : Trace) : Trace := trace.filter Event.isDealing

namespace Trace

@[simp] theorem conduct_append (a b : Trace) : conduct (a ++ b) = conduct a ++ conduct b :=
  List.filter_append ..

@[simp] theorem dealings_append (a b : Trace) : dealings (a ++ b) = dealings a ++ dealings b :=
  List.filter_append ..

/-- What a client does of its own accord is no conduct of the session. -/
@[simp] theorem conduct_map_toEvent (events : List ClientEvent) :
    conduct (events.map ClientEvent.toEvent) = [] := by
  induction events with
  | nil => rfl
  | cons event rest ih => cases event <;> exact ih

@[simp] theorem requests_map_toEvent (events : List ClientEvent) :
    requests (events.map ClientEvent.toEvent) = [] := by
  induction events with
  | nil => rfl
  | cons event rest ih => cases event <;> exact ih

/-- Conduct is all that the streams and the requests depend on. -/
theorem bytesOn_conduct (stream : StreamName) (trace : Trace) :
    trace.conduct.bytesOn stream = trace.bytesOn stream := by
  induction trace with
  | nil => rfl
  | cons event rest ih =>
    have cut : conduct (event :: rest) = conduct [event] ++ conduct rest :=
      conduct_append [event] rest
    have told : bytesOn stream (event :: rest) = event.bytesOn stream ++ bytesOn stream rest := rfl
    have kept : bytesOn stream (conduct [event]) = event.bytesOn stream := by
      cases event with
      | spawned _ _ _ => rfl
      | logged _ => rfl
      | _ => exact List.append_nil _
    rw [cut, bytesOn_append, ih, kept, told]

theorem requests_conduct (trace : Trace) : trace.conduct.requests = trace.requests := by
  rw [requests, conduct, List.filterMap_filter, requests]
  refine List.filterMap_congr fun event _ => ?_
  cases event <;> rfl

/-- Without dealings there are no requests. -/
theorem requests_of_dealings_eq_nil {trace : Trace} (h : trace.dealings = []) :
    trace.requests = [] := by
  rw [dealings, List.filter_eq_nil_iff] at h
  refine List.filterMap_eq_nil_iff.mpr fun event member => ?_
  cases event with
  | called _ => exact absurd rfl (h _ member)
  | _ => rfl

end Trace

namespace Client

def replies (client : Client σ) : σ → List Request → List (Except DaemonError Reply)
  | _, [] => []
  | state, request :: rest =>
      let answer := client.invoke request state
      answer.reply :: client.replies answer.state rest

/-- What comes of requests, one after the other: each, and then the programs run to answer it. -/
def dealings (client : Client σ) : σ → List Request → Trace
  | _, [] => []
  | state, request :: rest =>
      let answer := client.invoke request state
      .called request :: (Trace.dealings (answer.trace.map ClientEvent.toEvent)
        ++ client.dealings answer.state rest)

theorem stateAfter_append (client : Client σ) (state : σ) (first second : List Request) :
    client.stateAfter state (first ++ second) =
      client.stateAfter (client.stateAfter state first) second :=
  List.foldl_append

theorem dealings_append (client : Client σ) (state : σ) (first second : List Request) :
    client.dealings state (first ++ second) =
      client.dealings state first ++ client.dealings (client.stateAfter state first) second := by
  induction first generalizing state with
  | nil => rfl
  | cons request rest ih =>
    simp only [List.cons_append, dealings, ih, List.append_assoc, stateAfter, List.foldl_cons]

end Client

def World.scripted (world : World σ) (client : Client σ) (ahead : List Request) :
    World (List (Except DaemonError Reply)) :=
  ⟨world.out, world.err, client.replies world.client ahead⟩

/-- An outcome beside that of the script: of the requests ahead, some have been made and the others
are left.  The two show the same conduct, and the client has done what those requests made it do. -/
structure Outcome.Plays (client : Client σ) (start : World σ) (ahead left : List Request)
    (outcome : Outcome σ α) (script : Outcome (List (Except DaemonError Reply)) α) : Prop where
  ahead_eq : ahead = outcome.trace.requests ++ left
  conduct_eq : script.trace.conduct = outcome.trace.conduct
  dealings_eq : outcome.trace.dealings = client.dealings start.client outcome.trace.requests
  state_eq : outcome.world.client = client.stateAfter start.client outcome.trace.requests
  world_eq : script.world = outcome.world.scripted client left
  result_eq : script.result = outcome.result

/-- An action beside one of the script, after which the same requests are left however it ends. -/
def Action.Plays (client : Client σ) (ahead left : List Request) (action : Action σ α)
    (script : Action (List (Except DaemonError Reply)) α) : Prop :=
  ∀ world, (action.run world).Plays client world ahead left
    (script.run (world.scripted client ahead))

/-- An action beside one of the script, which makes all its requests unless it fails. -/
def Action.PlaysUnlessFailing (client : Client σ) (ahead left : List Request)
    (action : Action σ α) (script : Action (List (Except DaemonError Reply)) α) : Prop :=
  ∀ world, ∃ left', (action.run world).Plays client world ahead left'
      (script.run (world.scripted client ahead)) ∧
    ∀ a, (action.run world).result = .ok a → left' = left

section

variable {client : Client σ} {ahead mid left : List Request}

/-- What both outcomes showed before comes before the requests of what follows. -/
theorem Outcome.Plays.after {start middle : World σ} {past : Trace} {past' : Trace}
    {outcome : Outcome σ α} {script : Outcome (List (Except DaemonError Reply)) α}
    (plays : outcome.Plays client middle mid left script)
    (ahead_eq : ahead = past.requests ++ mid) (conduct_eq : past'.conduct = past.conduct)
    (dealings_eq : past.dealings = client.dealings start.client past.requests)
    (state_eq : middle.client = client.stateAfter start.client past.requests) :
    (outcome.after past).Plays client start ahead left (script.after past') where
  ahead_eq := by
    simp only [Outcome.trace_after, Trace.requests_append, List.append_assoc, ahead_eq,
      plays.ahead_eq]
  conduct_eq := by simp [conduct_eq, plays.conduct_eq]
  dealings_eq := by
    simp [dealings_eq, plays.dealings_eq, Client.dealings_append, state_eq]
  state_eq := by
    simp [plays.state_eq, Client.stateAfter_append, state_eq]
  world_eq := plays.world_eq
  result_eq := plays.result_eq

namespace Action.Plays

theorem bind {action : Action σ α} {script : Action _ α} {next : α → Action σ β}
    {next' : α → Action _ β} (first : action.Plays client ahead left script)
    (second : ∀ a, (next a).Plays client left left (next' a)) :
    (action >>= next).Plays client ahead left (script >>= next') := by
  intro world
  have begun := first world
  cases h : (action.run world).result with
  | error error =>
    rw [run_bind_error h, run_bind_error (begun.result_eq.trans h)]
    exact ⟨begun.ahead_eq, begun.conduct_eq, begun.dealings_eq, begun.state_eq, begun.world_eq, rfl⟩
  | ok a =>
    rw [run_bind_ok h, run_bind_ok (begun.result_eq.trans h), begun.world_eq]
    exact (second a _).after begun.ahead_eq begun.conduct_eq begun.dealings_eq begun.state_eq

theorem seq {step : Action σ Unit} {step' : Action _ Unit} {rest : Action σ β}
    {rest' : Action _ β} (first : step.Plays client ahead left step')
    (second : rest.Plays client left left rest') :
    (step >>= fun _ => rest).Plays client ahead left (step' >>= fun _ => rest') := by
  have any : ∀ a, ((fun _ : Unit => rest) a).Plays client left left ((fun _ : Unit => rest') a) :=
    fun _ => second
  exact first.bind any

theorem orElse {action : Action σ α} {script : Action _ α} {handler : BridgeError → Action σ α}
    {handler' : BridgeError → Action _ α} (first : action.Plays client ahead left script)
    (second : ∀ error, (handler error).Plays client left left (handler' error)) :
    (orElse action handler).Plays client ahead left (orElse script handler') := by
  intro world
  have begun := first world
  cases h : (action.run world).result with
  | ok a =>
    rw [run_orElse_ok h, run_orElse_ok (begun.result_eq.trans h)]
    exact begun
  | error error =>
    rw [run_orElse_error h, run_orElse_error (begun.result_eq.trans h), begun.world_eq]
    exact (second error _).after begun.ahead_eq begun.conduct_eq begun.dealings_eq begun.state_eq

theorem unlessFailing {action : Action σ α} {script : Action _ α}
    (plays : action.Plays client ahead left script) :
    action.PlaysUnlessFailing client ahead left script :=
  fun world => ⟨left, plays world, fun _ _ => rfl⟩

end Action.Plays

theorem Action.PlaysUnlessFailing.seq {step : Action σ Unit} {step' : Action _ Unit}
    {rest : Action σ β} {rest' : Action _ β}
    (first : step.PlaysUnlessFailing client ahead mid step')
    (second : rest.PlaysUnlessFailing client mid left rest') :
    (step >>= fun _ => rest).PlaysUnlessFailing client ahead left (step' >>= fun _ => rest') := by
  intro world
  obtain ⟨remaining, begun, finished⟩ := first world
  cases h : (step.run world).result with
  | error error =>
    rw [run_bind_error h, run_bind_error (begun.result_eq.trans h)]
    exact ⟨remaining, ⟨begun.ahead_eq, begun.conduct_eq, begun.dealings_eq, begun.state_eq,
      begun.world_eq, rfl⟩, fun _ ok => by cases ok⟩
  | ok a =>
    obtain rfl := finished a h
    rw [run_bind_ok h, run_bind_ok (begun.result_eq.trans h), begun.world_eq]
    obtain ⟨left', continued, ended⟩ := second (step.run world).world
    exact ⟨left', continued.after begun.ahead_eq begun.conduct_eq begun.dealings_eq begun.state_eq,
      ended⟩

end

namespace World

variable (world : World σ) (client : Client σ) (ahead : List Request) (stream : StreamName)

@[simp] theorem sink_scripted : (world.scripted client ahead).sink stream = world.sink stream := by
  cases stream <;> rfl

@[simp] theorem setSink_scripted (sink : Sink) :
    (world.scripted client ahead).setSink stream sink =
      (world.setSink stream sink).scripted client ahead := by
  cases stream <;> rfl

end World

section

variable (client : Client σ) (left : List Request)

/-- Outcomes without dealings, which leave the client as it was. -/
theorem Outcome.Plays.of_no_dealings {start world : World σ} {trace : Trace}
    (none : trace.dealings = []) (same : world.client = start.client)
    (result : Except BridgeError α) :
    Outcome.Plays client start left left ⟨trace, world, result⟩
      ⟨trace, world.scripted client left, result⟩ where
  ahead_eq := by rw [Trace.requests_of_dealings_eq_nil none]; rfl
  conduct_eq := rfl
  dealings_eq := by rw [Trace.requests_of_dealings_eq_nil none, none]; rfl
  state_eq := by rw [Trace.requests_of_dealings_eq_nil none, same]; rfl
  world_eq := rfl
  result_eq := rfl

theorem done_plays (a : α) : (done a).Plays client left left (done a) :=
  fun _ => .of_no_dealings client left rfl rfl _

theorem fail_plays (error : BridgeError) :
    (fail error : Action σ α).Plays client left left (fail error) :=
  fun _ => .of_no_dealings client left rfl rfl _

theorem fault_plays (error : StreamError) :
    (fault error : Action σ α).Plays client left left (fault error) :=
  fun _ => .of_no_dealings client left rfl rfl _

theorem log_plays (record : Logging.Record) :
    (log record).Plays client left left (log record) :=
  fun _ => .of_no_dealings client left rfl rfl _

theorem write_plays (stream : StreamName) (bytes : Bytes) :
    (write stream bytes).Plays client left left (write stream bytes) := by
  intro world
  have none (taken : Nat) :
      Trace.dealings (if taken = 0 then [] else [.wrote stream (bytes.take taken)]) = [] := by
    split <;> rfl
  simp only [Action.run, write, World.sink_scripted, World.setSink_scripted]
  split
  · exact .of_no_dealings client left (by rw [Trace.dealings_append, none]; rfl)
      (World.client_setSink ..) _
  · exact .of_no_dealings client left (none _) (World.client_setSink ..) _

theorem flush_plays (stream : StreamName) :
    (flush stream).Plays client left left (flush stream) := by
  intro world
  simp only [Action.run, flush, World.sink_scripted, World.setSink_scripted]
  split
  · exact .of_no_dealings client left rfl (World.client_setSink ..) _
  · exact .of_no_dealings client left rfl (World.client_setSink ..) _

/-- A request takes the next reply of the script. -/
theorem ask_plays (request : Request) :
    (ask client request).Plays client (request :: left) left (ask Client.scripted request) := by
  intro world
  let answer := client.invoke request world.client
  let own := answer.trace.map ClientEvent.toEvent
  have requests_eq : Trace.requests (.called request :: own) = [request] :=
    (Trace.requests_append [.called request] own).trans (by rw [Trace.requests_map_toEvent]; rfl)
  have conduct_eq : Trace.conduct (.called request :: own) = [.called request] :=
    (Trace.conduct_append [.called request] own).trans (by rw [Trace.conduct_map_toEvent]; rfl)
  have dealings_eq : Trace.dealings (.called request :: own) =
      client.dealings world.client [request] := by
    simp only [Client.dealings, List.append_nil]
    rfl
  have asked : (ask client request).run world =
      ⟨.called request :: own, { world with client := answer.state },
        answer.reply.mapError fun error => .daemon ⟨error, ""⟩⟩ := rfl
  have played : (ask Client.scripted request).run (world.scripted client (request :: left)) =
      ⟨[.called request], World.scripted { world with client := answer.state } client left,
        answer.reply.mapError fun error => .daemon ⟨error, ""⟩⟩ := rfl
  rw [asked, played]
  refine ⟨?_, ?_, ?_, ?_, rfl, rfl⟩
  · rw [requests_eq]
    rfl
  · rw [conduct_eq]
    rfl
  · rw [requests_eq]
    exact dealings_eq
  · rw [requests_eq]
    rfl

theorem writeText_plays (stream : StreamName) (text : String) :
    (writeText stream text).Plays client left left (writeText stream text) :=
  write_plays client left stream _

theorem writeLine_plays (stream : StreamName) (text : String) :
    (writeLine stream text).Plays client left left (writeLine stream text) :=
  write_plays client left stream _

theorem flushBoth_plays : flushBoth.Plays client left left flushBoth :=
  (flush_plays client left .out).seq (flush_plays client left .err)

theorem settle_plays (reply : Reply) (op : Opcode) (captured : String) :
    (settle reply op captured).Plays client left left (settle reply op captured) := by
  unfold settle
  cases reply.error? op with
  | none => exact done_plays client left ()
  | some error => exact fail_plays client left _

theorem call_plays (request : Request) :
    (call client request).Plays client (request :: left) left (call Client.scripted request) :=
  (ask_plays client left request).bind fun reply =>
    (writeText_plays client left .err reply.stderr).seq
      ((log_plays client left _).seq (done_plays client left reply))

theorem check_plays (inspecting : Bool) :
    (check client inspecting).Plays client (.check :: left) left
      (check Client.scripted inspecting) := by
  have last : (if inspecting then done () else writeLine .out doneMarker).Plays client left left
      (if inspecting then done () else writeLine .out doneMarker) := by
    cases inspecting with
    | true => exact done_plays client left ()
    | false => exact writeLine_plays client left .out doneMarker
  exact (call_plays client left .check).bind fun reply =>
    (writeText_plays client left _ reply.stdout).seq
      ((log_plays client left _).seq ((settle_plays client left reply .check "").seq last))

theorem suggest_plays (symbol : String) :
    (suggest client symbol).Plays client (.suggest symbol :: left) left
      (suggest Client.scripted symbol) :=
  (call_plays client left (.suggest symbol)).bind fun reply =>
    (writeText_plays client left .out reply.stdout).seq
      ((settle_plays client left reply .suggest "").seq
        ((log_plays client left _).seq (writeLine_plays client left .out doneMarker)))

theorem inspect_plays (location : String) :
    (inspect client location).Plays client (.inspect location :: left) left
      (inspect Client.scripted location) :=
  (call_plays client left (.inspect location)).bind fun reply =>
    (settle_plays client left reply .inspect reply.stdout).seq
      ((writeLine_plays client left .out _).seq (writeLine_plays client left .err _))

theorem perform_plays (command : Command) (op : Opcode) :
    (perform client command op).Plays client (.about command.argument op :: left) left
      (perform Client.scripted command op) := by
  cases op with
  | check => exact check_plays client left _
  | suggest => exact suggest_plays client left _
  | inspect => exact inspect_plays client left _

theorem recover_plays (failure : DaemonFailure) :
    (recover failure).Plays client left left (recover failure) :=
  (log_plays client left _).seq ((writeLine_plays client left .out "").seq
    ((writeLine_plays client left .err _).seq (writeLine_plays client left .err _)))

theorem abandon_plays (error : BridgeError) :
    (abandon error).Plays client left left (abandon error) :=
  (flushBoth_plays client left).seq (fail_plays client left error)

theorem afterFailure_plays (op : Opcode) (error : BridgeError) :
    (afterFailure op error).Plays client left left (afterFailure op error) := by
  cases error with
  | daemon failure =>
    simp only [afterFailure]
    split
    · exact recover_plays client left failure
    · exact abandon_plays client left _
  | stream _ => exact abandon_plays client left _
  | config _ => exact abandon_plays client left _

theorem answerOpcode_plays (command : Command) (op : Opcode) :
    (answerOpcode client command op).Plays client (.about command.argument op :: left) left
      (answerOpcode Client.scripted command op) :=
  (perform_plays client left command op).orElse fun error => afterFailure_plays client left op error

theorem answerOpcodes_plays (command : Command) (ops : List Opcode) :
    (answerOpcodes client command ops).PlaysUnlessFailing client
      (ops.map (.about command.argument) ++ left) left
      (answerOpcodes Client.scripted command ops) := by
  induction ops with
  | nil => exact (done_plays client left ()).unlessFailing
  | cons op rest ih => exact (answerOpcode_plays client _ command op).unlessFailing.seq ih

theorem await_plays (unreadable : Option Nat) (handled : Nat) (endSeen : Bool) :
    (await unreadable handled endSeen).Plays client left left
      (await unreadable handled endSeen) := by
  have begun : (emit (.reading endSeen)).Plays client left left (emit (.reading endSeen)) :=
    fun _ => .of_no_dealings client left rfl rfl _
  refine begun.seq ?_
  split
  · exact fault_plays client left .unread
  · exact done_plays client left ()

/-- A turn makes the requests that its piece of the input asks for. -/
theorem takeTurn_plays (clock : Nat → String) (unreadable : Option Nat) (handled : Nat)
    (piece : Bytes) :
    (takeTurn client clock unreadable handled piece).PlaysUnlessFailing client
      (Errand.requests piece ++ left) left
      (takeTurn Client.scripted clock unreadable handled piece) :=
  (await_plays client _ unreadable handled false).unlessFailing.seq
    ((writeLine_plays client _ .err _).unlessFailing.seq
      ((answerOpcodes_plays client left _ _).seq (flushBoth_plays client left).unlessFailing))

theorem servePieces_plays (clock : Nat → String) (unreadable : Option Nat) (handled : Nat)
    (endSeen : Bool) (pieces : List Bytes) :
    (servePieces client clock unreadable handled endSeen pieces).PlaysUnlessFailing client
      (pieces.flatMap Errand.requests) []
      (servePieces Client.scripted clock unreadable handled endSeen pieces) := by
  induction pieces generalizing handled endSeen with
  | nil =>
    exact ((await_plays client [] unreadable handled endSeen).seq
      (log_plays client [] _)).unlessFailing
  | cons piece rest ih =>
    exact (takeTurn_plays client _ clock unreadable handled piece).seq (ih _ _)

end

def Input.requests (input : Input) : List Request := (pieces input.bytes).flatMap Errand.requests

namespace Session

/-- A session over a client, beside the one over the client's script. -/
theorem serve_plays (client : Client σ) (clock : Nat → String) (input : Input) (world : World σ) :
    ∃ left, ((serve client clock input).run world).Plays client world input.requests left
      ((serve Client.scripted clock input).run (world.scripted client input.requests)) := by
  obtain ⟨left, plays, _⟩ := servePieces_plays client clock input.unreadable 0 false
    (Input.pieces input.bytes) world
  exact ⟨left, plays⟩

/-- Clients that give the same replies to the requests of an input are as good as each other. -/
theorem serve_congr {τ : Type} (client : Client σ) (client' : Client τ) (clock : Nat → String)
    (input : Input) (out err : Sink) (state : σ) (state' : τ)
    (same : client.replies state input.requests = client'.replies state' input.requests) :
    let session := (serve client clock input).run ⟨out, err, state⟩
    let session' := (serve client' clock input).run ⟨out, err, state'⟩
    session.trace.conduct = session'.trace.conduct ∧ session.result = session'.result := by
  intro session session'
  obtain ⟨_, plays⟩ := serve_plays client clock input ⟨out, err, state⟩
  obtain ⟨_, plays'⟩ := serve_plays client' clock input ⟨out, err, state'⟩
  have script : (World.mk out err state).scripted client input.requests =
      (World.mk out err state').scripted client' input.requests :=
    congrArg (World.mk out err) same
  rw [script] at plays
  exact ⟨plays.conduct_eq.symm.trans plays'.conduct_eq, plays.result_eq.symm.trans plays'.result_eq⟩

end Session

end EditorBridge
