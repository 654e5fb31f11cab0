import EditorBridge.Proofs.Session.Healthy

/-!
# Sessions on failing streams

A session whose streams may fail is compared with the session on healthy streams that has the same
client.  As long as nothing has failed, both show the same.  With the first failure the faulty
session stops: what it has shown by then is the beginning of what the other one shows, all that it
still does is to flush, and its result is an error of the streams (`Outcome.Tracks`).

Each action is related to itself on healthy streams, along its sequence; only reading differs, since
the other session can read every line.
-/
namespace EditorBridge

open EditorBridge.Action EditorBridge.Session

variable {σ α β : Type}

def Event.fault? : Event → Option StreamError
  | .failed error => some error
  | _ => none

/-- The failures of streams, in order. -/
def Trace.faults (trace : Trace) : List StreamError := trace.filterMap Event.fault?

/-- Whether an event is an attempt to flush a stream. -/
def Event.isFlush : Event → Bool
  | .flushed _ => true
  | .failed (.unflushed _) => true
  | _ => false

@[simp] theorem Trace.faults_append (a b : Trace) : faults (a ++ b) = faults a ++ faults b := by
  simp [faults]

/-- A client cannot make a stream fail. -/
@[simp] theorem Trace.faults_map_toEvent (events : List ClientEvent) :
    faults (events.map ClientEvent.toEvent) = [] := by
  induction events with
  | nil => rfl
  | cons event rest ih =>
    cases event <;> simpa [faults, ClientEvent.toEvent, Event.fault?] using ih

/-- Nothing is seen of flushes. -/
theorem Trace.signs_of_isFlush {trace : Trace} (h : ∀ event ∈ trace, event.isFlush = true) :
    trace.signs = [] := by
  induction trace with
  | nil => rfl
  | cons event rest ih =>
    have hidden : event.signs = [] := by
      cases event with
      | flushed _ => rfl
      | failed _ => rfl
      | _ => simp [Event.isFlush] at h
    rw [signs_cons, hidden, ih fun e he => h e (List.mem_cons_of_mem _ he)]
    rfl

/-- An outcome of nothing but flushes, which fails with an error of the streams. -/
def Outcome.GivesUp (outcome : Outcome σ α) : Prop :=
  (∀ event ∈ outcome.trace, event.isFlush = true) ∧
    ∃ error, outcome.result = .error (.stream error)

/-- A faulty outcome beside the one on healthy streams. -/
inductive Outcome.Tracks (faulty ideal : Outcome σ α) : Prop where
  /-- Nothing has failed: both outcomes show the same, and the sessions can go on together. -/
  | whole (faultless : faulty.trace.faults = [])
      (signs_eq : faulty.trace.signs = ideal.trace.signs)
      (world_eq : ideal.world = .healthy faulty.world.client)
      (result_eq : faulty.result = ideal.result)
      (alive : ∀ error, faulty.result ≠ .error (.stream error))
  /-- A stream has failed: nothing but flushes came after it. -/
  | broken (error fault : StreamError) (before after : Trace)
      (trace_eq : faulty.trace = before ++ .failed fault :: after)
      (faultless : before.faults = [])
      (flushes : ∀ event ∈ after, event.isFlush = true)
      (shown : before.signs <+: ideal.trace.signs)
      (result_eq : faulty.result = .error (.stream error))

/-- An action on streams that may fail, beside one that runs on healthy streams. -/
def Action.Tracks (action ideal : Action σ α) : Prop :=
  ∀ world, (action.run world).Tracks (ideal.run (.healthy world.client))

/-- What both outcomes had shown before makes no difference. -/
theorem Outcome.Tracks.after {faulty ideal : Outcome σ α} (tracks : faulty.Tracks ideal)
    {past past' : Trace} (faultless : past.faults = []) (same : past.signs = past'.signs) :
    (faulty.after past).Tracks (ideal.after past') := by
  cases tracks with
  | whole none signs_eq world_eq result_eq alive =>
    exact .whole (by simp [Outcome.after, faultless, none])
      (by simp [Outcome.after, same, signs_eq]) world_eq result_eq alive
  | broken error fault before rest trace_eq none flushes shown result_eq =>
    refine .broken error fault (past ++ before) rest ?_ ?_ flushes ?_ result_eq
    · simp [Outcome.after, trace_eq]
    · simp [faultless, none]
    · simpa [Outcome.after, same] using shown

namespace Action.Tracks

theorem bind {action ideal : Action σ α} {next next' : α → Action σ β}
    (first : action.Tracks ideal) (second : ∀ a, (next a).Tracks (next' a)) :
    (action >>= next).Tracks (ideal >>= next') := by
  intro world
  cases first world with
  | whole faultless signs_eq world_eq result_eq alive =>
    cases h : (action.run world).result with
    | error error =>
      rw [h] at result_eq alive
      rw [run_bind_error h, run_bind_error result_eq.symm]
      exact .whole faultless signs_eq world_eq rfl fun e he => alive e (by simpa using he)
    | ok a =>
      rw [h] at result_eq
      rw [run_bind_ok h, run_bind_ok result_eq.symm, world_eq]
      exact (second a _).after faultless signs_eq
  | broken error fault before after trace_eq faultless flushes shown result_eq =>
    obtain ⟨more, extended⟩ := exists_trace_bind ideal next' (.healthy world.client)
    rw [run_bind_error result_eq]
    refine .broken error fault before after trace_eq faultless flushes ?_ rfl
    rw [extended, Trace.signs_append]
    exact shown.trans (List.prefix_append _ _)

theorem seq {step step' : Action σ Unit} {rest rest' : Action σ β} (first : step.Tracks step')
    (second : rest.Tracks rest') : (step >>= fun _ => rest).Tracks (step' >>= fun _ => rest') := by
  have any : ∀ a, ((fun _ : Unit => rest) a).Tracks ((fun _ : Unit => rest') a) := fun _ => second
  exact first.bind any

/-- A handler carries on after other failures, and gives up once a stream has failed. -/
theorem orElse {action ideal : Action σ α} {handler : BridgeError → Action σ α}
    (first : action.Tracks ideal)
    (survived : ∀ error, (∀ e, error ≠ .stream e) → (handler error).Tracks (handler error))
    (stopped : ∀ error world, ((handler (.stream error)).run world).GivesUp) :
    (orElse action handler).Tracks (orElse ideal handler) := by
  intro world
  cases first world with
  | whole faultless signs_eq world_eq result_eq alive =>
    -- An error without a failed stream is the client's, and both sessions handle it alike.
    cases h : (action.run world).result with
    | error error =>
      have daemonic : ∀ e, error ≠ .stream e := fun e he => alive e (he ▸ h)
      rw [h] at result_eq
      rw [run_orElse_error h, run_orElse_error result_eq.symm, world_eq]
      exact (survived error daemonic _).after faultless signs_eq
    | ok a =>
      rw [run_orElse_ok h, run_orElse_ok (result_eq.symm.trans h)]
      exact .whole faultless signs_eq world_eq result_eq alive
  | broken error fault before after trace_eq faultless flushes shown result_eq =>
    obtain ⟨more, extended⟩ := exists_trace_orElse ideal handler (.healthy world.client)
    -- The ideal session may carry on, but the faulty one is left to flush.
    obtain ⟨only, e, failed⟩ := stopped error (action.run world).world
    let late := ((handler (.stream error)).run (action.run world).world).trace
    rw [run_orElse_error result_eq]
    refine .broken e fault before (after ++ late) ?_ faultless ?_ ?_ failed
    · simp [Outcome.after, trace_eq, late]
    · intro event member
      rcases List.mem_append.mp member with early | last
      · exact flushes event early
      · exact only event last
    · rw [extended, Trace.signs_append]
      exact shown.trans (List.prefix_append _ _)

end Action.Tracks

theorem done_tracks (a : α) : (done a : Action σ α).Tracks (done a) := fun _ =>
  .whole rfl rfl rfl rfl fun _ h => by cases h

theorem fail_tracks {error : BridgeError} (h : ∀ e, error ≠ .stream e) :
    (fail error : Action σ α).Tracks (fail error) := fun _ =>
  .whole rfl rfl rfl rfl fun e he => h e (by cases he; rfl)

/-- A stream that fails at once has shown nothing. -/
theorem fault_tracks (error : StreamError) (ideal : Action σ α) : (fault error).Tracks ideal :=
  fun _ => .broken error error [] [] rfl rfl (by simp) List.nil_prefix rfl

theorem log_tracks (record : Logging.Record) : (log record : Action σ Unit).Tracks (log record) :=
  fun _ => .whole rfl rfl rfl rfl fun _ h => by cases h

@[simp] theorem World.client_setSink (world : World σ) (stream : StreamName) (sink : Sink) :
    (world.setSink stream sink).client = world.client := by
  cases stream <;> rfl

/-- A stream that does not take all bytes has taken the first of them. -/
theorem write_tracks (stream : StreamName) (bytes : Bytes) :
    (write stream bytes : Action σ Unit).Tracks (write stream bytes) := by
  intro world
  have ideal := write_yields world.client stream bytes
  let taken := (world.sink stream).taken bytes.length
  let accepted : Trace := if taken = 0 then [] else [.wrote stream (bytes.take taken)]
  have signs_accepted : accepted.signs = (bytes.take taken).map (.byte stream) := by
    by_cases h : taken = 0 <;> simp [accepted, h, Event.signs]
  have faultless : accepted.faults = [] := by
    by_cases h : taken = 0 <;> simp [accepted, h, Trace.faults, Event.fault?]
  by_cases short : taken < bytes.length
  · have cut : (write stream bytes).run world =
        ⟨accepted ++ [.failed (.closed stream)],
          world.setSink stream ((world.sink stream).afterWrite taken),
          .error (.stream (.closed stream))⟩ := if_pos short
    rw [cut]
    refine .broken _ _ accepted [] rfl faultless (by simp) ?_ rfl
    rw [ideal.signs_eq, signs_accepted]
    exact (List.take_prefix _ _).map _
  · have complete : (write stream bytes).run world =
        ⟨accepted, world.setSink stream ((world.sink stream).afterWrite taken), .ok ()⟩ :=
      if_neg short
    rw [complete]
    refine .whole faultless ?_ ?_ ideal.result_eq.symm fun _ h => by cases h
    · rw [ideal.signs_eq, signs_accepted, List.take_of_length_le (Nat.le_of_not_lt short)]
    · rw [ideal.world_eq, World.client_setSink]

theorem flush_tracks (stream : StreamName) :
    (flush stream : Action σ Unit).Tracks (flush stream) := by
  intro world
  have ideal := flush_yields world.client stream
  let next := world.setSink stream (world.sink stream).afterFlush
  by_cases fails : (world.sink stream).flushFails = true
  · have failed : (flush stream).run world = (fault (.unflushed stream)).run next := if_pos fails
    rw [failed, ← World.client_setSink world stream (world.sink stream).afterFlush]
    exact fault_tracks (.unflushed stream) (flush stream) next
  · have flushed : (flush stream).run world = ⟨[.flushed stream], next, .ok ()⟩ := if_neg fails
    rw [flushed]
    refine .whole rfl ideal.signs_eq.symm ?_ ideal.result_eq.symm fun _ h => by cases h
    rw [ideal.world_eq, World.client_setSink]

theorem ask_tracks (client : Client σ) (request : Request) :
    (ask client request).Tracks (ask client request) := by
  intro world
  have ideal := ask_yields client world.client request
  refine .whole (Trace.faults_map_toEvent _) ?_ ideal.world_eq ideal.result_eq.symm ?_
  · rw [ideal.signs_eq]
    simp [ask, Action.run, Event.signs]
  · intro error h
    change (client.invoke request world.client).reply.mapError _ = _ at h
    cases hr : (client.invoke request world.client).reply with
    | error _ =>
      rw [hr] at h
      cases h
    | ok _ =>
      rw [hr] at h
      cases h

theorem writeText_tracks (stream : StreamName) (text : String) :
    (writeText stream text : Action σ Unit).Tracks (writeText stream text) :=
  write_tracks stream _

theorem writeLine_tracks (stream : StreamName) (text : String) :
    (writeLine stream text : Action σ Unit).Tracks (writeLine stream text) :=
  write_tracks stream _

theorem flushBoth_tracks : (flushBoth : Action σ Unit).Tracks flushBoth :=
  (flush_tracks .out).seq (flush_tracks .err)

theorem settle_tracks (reply : Reply) (op : Opcode) (captured : String) :
    (settle reply op captured : Action σ Unit).Tracks (settle reply op captured) := by
  unfold settle
  cases reply.error? op with
  | none => exact done_tracks ()
  | some error => exact fail_tracks fun _ h => by cases h

section

variable (client : Client σ)

theorem call_tracks (request : Request) :
    (call client request).Tracks (call client request) :=
  (ask_tracks client request).bind fun reply =>
    (writeText_tracks .err reply.stderr).seq
      ((log_tracks (callCompleted request reply)).seq (done_tracks reply))

theorem check_tracks (inspecting : Bool) :
    (check client inspecting).Tracks (check client inspecting) := by
  have last : (if inspecting then done () else writeLine .out doneMarker : Action σ Unit).Tracks
      (if inspecting then done () else writeLine .out doneMarker) := by
    cases inspecting with
    | true => exact done_tracks ()
    | false => exact writeLine_tracks .out doneMarker
  exact (call_tracks client .check).bind fun reply =>
    (writeText_tracks _ reply.stdout).seq
      ((log_tracks _).seq ((settle_tracks reply .check "").seq last))

theorem suggest_tracks (symbol : String) :
    (suggest client symbol).Tracks (suggest client symbol) :=
  (call_tracks client (.suggest symbol)).bind fun reply =>
    (writeText_tracks .out reply.stdout).seq
      ((settle_tracks reply .suggest "").seq
        ((log_tracks _).seq (writeLine_tracks .out doneMarker)))

theorem inspect_tracks (location : String) :
    (inspect client location).Tracks (inspect client location) :=
  (call_tracks client (.inspect location)).bind fun reply =>
    (settle_tracks reply .inspect reply.stdout).seq
      ((writeLine_tracks .out _).seq (writeLine_tracks .err _))

theorem perform_tracks (command : Command) (op : Opcode) :
    (perform client command op).Tracks (perform client command op) := by
  cases op with
  | check => exact check_tracks client _
  | suggest => exact suggest_tracks client _
  | inspect => exact inspect_tracks client _

theorem recover_tracks (failure : DaemonFailure) :
    (recover failure : Action σ Unit).Tracks (recover failure) :=
  (log_tracks _).seq
    ((writeLine_tracks .out "").seq ((writeLine_tracks .err _).seq (writeLine_tracks .err _)))

theorem abandon_tracks {error : BridgeError} (h : ∀ e, error ≠ .stream e) :
    (abandon error : Action σ Unit).Tracks (abandon error) :=
  flushBoth_tracks.seq (fail_tracks h)

/-- A flush changes nothing about giving up, whether it fails or not. -/
theorem Outcome.GivesUp.flush_first {rest : Action σ α} (h : ∀ world, (rest.run world).GivesUp)
    (stream : StreamName) (world : World σ) :
    ((flush stream >>= fun _ => rest).run world).GivesUp := by
  let next := world.setSink stream (world.sink stream).afterFlush
  by_cases fails : (world.sink stream).flushFails = true
  · have failed : (flush stream).run world = (fault (.unflushed stream)).run next := if_pos fails
    have stopped : ((flush stream).run world).result = .error (.stream (.unflushed stream)) := by
      rw [failed]
      rfl
    rw [run_bind_error stopped, failed]
    exact ⟨by simp [fault, Action.run, Event.isFlush], _, rfl⟩
  · have flushed : (flush stream).run world = ⟨[.flushed stream], next, .ok ()⟩ := if_neg fails
    obtain ⟨only, error, failed⟩ := h next
    rw [run_bind_ok (a := ()) (by rw [flushed]), flushed]
    exact ⟨by simpa [Outcome.after, Event.isFlush] using only, error, failed⟩

/-- A session that has lost a stream flushes what it can and reports the loss. -/
theorem abandon_givesUp (error : StreamError) (world : World σ) :
    ((abandon (.stream error)).run world).GivesUp := by
  have reported : ∀ world : World σ, ((fail (.stream error) : Action σ Unit).run world).GivesUp :=
    fun _ => ⟨by simp [fail, Action.run], error, rfl⟩
  have unfolded := run_bind_bind (flush .out) (fun _ => flush .err)
    (fun _ => (fail (.stream error) : Action σ Unit)) world
  exact unfolded ▸ Outcome.GivesUp.flush_first
    (Outcome.GivesUp.flush_first reported .err) .out world

theorem answerOpcode_tracks (command : Command) (op : Opcode) :
    (answerOpcode client command op).Tracks (answerOpcode client command op) := by
  refine (perform_tracks client command op).orElse ?_ ?_
  · intro error daemonic
    cases error with
    | stream e => exact absurd rfl (daemonic e)
    | daemon failure =>
      simp only [afterFailure]
      split
      · exact recover_tracks failure
      · exact abandon_tracks daemonic
    | config _ => exact abandon_tracks daemonic
  · exact abandon_givesUp

theorem answerOpcodes_tracks (command : Command) (ops : List Opcode) :
    (answerOpcodes client command ops).Tracks (answerOpcodes client command ops) := by
  induction ops with
  | nil => exact done_tracks ()
  | cons op rest ih => exact (answerOpcode_tracks client command op).seq ih

theorem answerLine_tracks (time line : String) :
    (answerLine client time line).Tracks (answerLine client time line) :=
  (writeLine_tracks .err _).seq ((answerOpcodes_tracks client _ _).seq flushBoth_tracks)

theorem await_tracks (unreadable : Option Nat) (handled : Nat) (endSeen : Bool) :
    (await unreadable handled endSeen : Action σ Unit).Tracks (await none handled endSeen) := by
  have begun : (emit (.reading endSeen) : Action σ Unit).Tracks (emit (.reading endSeen)) :=
    fun _ => .whole rfl rfl rfl rfl fun _ h => by cases h
  refine begun.seq ?_
  -- The one step where the two differ: a line that cannot be read, against one that can.
  split
  · exact fault_tracks .unread _
  · simpa using done_tracks ()

theorem servePieces_tracks (clock : Nat → String) (unreadable : Option Nat) (handled : Nat)
    (endSeen : Bool) (pieces : List Bytes) :
    (servePieces client clock unreadable handled endSeen pieces).Tracks
      (servePieces client clock none handled endSeen pieces) := by
  induction pieces generalizing handled endSeen with
  | nil => exact (await_tracks unreadable handled endSeen).seq (log_tracks _)
  | cons piece rest ih =>
    have turn : (takeTurn client clock unreadable handled piece).Tracks
        (takeTurn client clock none handled piece) :=
      (await_tracks unreadable handled false).seq (answerLine_tracks client _ _)
    exact turn.seq (ih _ _)

end

/-- Whatever comes after any failure of a stream is a flush. -/
theorem Outcome.Tracks.flushes_after_fault {faulty ideal : Outcome σ α}
    (tracks : faulty.Tracks ideal) {before after : Trace} {fault : StreamError}
    (split : faulty.trace = before ++ .failed fault :: after) :
    ∀ event ∈ after, event.isFlush = true := by
  cases tracks with
  | whole faultless _ _ _ _ => simp [split, Trace.faults, Event.fault?] at faultless
  | broken error first before' after' trace_eq faultless flushes _ _ =>
    rw [trace_eq] at split
    rcases List.append_eq_append_iff.mp split with ⟨gap, _, later⟩ | ⟨gap, earlier, same⟩
    · cases gap with
      | nil =>
        cases later
        exact flushes
      | cons _ gap =>
        cases later
        exact fun event member => flushes event (by simp [member])
    · cases gap with
      | nil =>
        cases same
        exact flushes
      | cons event gap =>
        -- the first failure would come before itself
        cases same
        simp [earlier, Trace.faults, Event.fault?] at faultless

/-- A faulty outcome shows the beginning of what the other one shows. -/
theorem Outcome.Tracks.signs_isPrefix {faulty ideal : Outcome σ α} (tracks : faulty.Tracks ideal) :
    faulty.trace.signs <+: ideal.trace.signs := by
  cases tracks with
  | whole _ signs_eq _ _ _ => exact signs_eq ▸ List.prefix_refl _
  | broken error fault before after trace_eq _ flushes shown _ =>
    have unseen := Trace.signs_of_isFlush flushes
    simpa [trace_eq, unseen, Event.signs] using shown

/-- A faulty outcome fails with an error of the streams exactly if a stream has failed. -/
theorem Outcome.Tracks.result_iff {faulty ideal : Outcome σ α} (tracks : faulty.Tracks ideal) :
    (∃ error, faulty.result = .error (.stream error)) ↔ faulty.trace.faults ≠ [] := by
  cases tracks with
  | whole faultless _ _ _ alive => simp [faultless, alive]
  | broken error fault before after trace_eq _ _ _ result_eq =>
    simp [trace_eq, result_eq, Trace.faults, Event.fault?]

namespace Session

/-- However the streams fail, a session shows the beginning of what it shows on healthy streams.
Both times it follows one account, whatever the clocks say: they only fill in the time of day in the
echoes.  After the first failure the session does nothing but flush, and it fails with an error of
the streams exactly if there was a failure. -/
theorem fail_stop (client : Client σ) (now later : Nat → String) (input : Input)
    (world : World σ) :
    let faulty := (serve client now input).run world
    let clean := (serve client later (.ofBytes input.bytes)).run (.healthy world.client)
    let account := client.account world.client input.bytes
    clean.trace.signs = account.flatMap (Deed.signs later) ∧
      faulty.trace.signs <+: account.flatMap (Deed.signs now) ∧
      (∀ (before after : Trace) (fault : StreamError),
        faulty.trace = before ++ .failed fault :: after →
          after.signs = [] ∧ ∀ event ∈ after, event.isFlush = true) ∧
      ((∃ error, faulty.result = .error (.stream error)) ↔ faulty.trace.faults ≠ []) := by
  intro faulty clean account
  have tracks : faulty.Tracks
      ((serve client now (.ofBytes input.bytes)).run (.healthy world.client)) :=
    servePieces_tracks client now input.unreadable 0 false (Input.pieces input.bytes) world
  refine ⟨(serve_accords client later world.client input.bytes).signs_eq, ?_, ?_,
    tracks.result_iff⟩
  · have same := (serve_accords client now world.client input.bytes).signs_eq
    exact same ▸ tracks.signs_isPrefix
  · intro before after fault split
    have flushes := tracks.flushes_after_fault split
    exact ⟨Trace.signs_of_isFlush flushes, flushes⟩

end Session

end EditorBridge
