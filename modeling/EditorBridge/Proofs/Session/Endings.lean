import EditorBridge.Proofs.Session.Flushing

/-!
# How sessions end

A session that ends leaves nothing on stdout unflushed, except in one place.  A line that ends the
session is given up by flushing both streams (`Outcome.Stopped.flushed`); but a failed inspection is
answered by a recovery, and when a stream closes during that, the session ends there and then
(`Outcome.Stopped.cut`).  What stdout has taken for that line stays unflushed, be it the empty line
of the recovery or the suggestion that the same line has asked for.
-/
namespace EditorBridge

open EditorBridge.Action EditorBridge.Session

variable {σ α : Type}

/-- A step that fails is all there is of a sequence. -/
theorem run_seq_error {step rest : Action σ Unit} {world : World σ} {error : BridgeError}
    (h : (step.run world).result = .error error) :
    (step >>= fun _ => rest).run world = step.run world := by
  rw [run_bind_error h, ← h]

/-- A write fails when its stream closes, which is the last that is seen of it. -/
theorem write_error {stream : StreamName} {bytes : Bytes} {world : World σ} {error : BridgeError}
    (h : ((write stream bytes : Action σ Unit).run world).result = .error error) :
    ∃ accepted : Trace, (∀ event ∈ accepted, ∃ taken, event = .wrote stream taken) ∧
      ((write stream bytes : Action σ Unit).run world).trace =
        accepted ++ [.failed (.closed stream)] ∧
      error = .stream (.closed stream) := by
  let taken := (world.sink stream).taken bytes.length
  by_cases short : taken < bytes.length
  · have cut : (write stream bytes : Action σ Unit).run world = _ := if_pos short
    rw [cut] at h ⊢
    refine ⟨if taken = 0 then [] else [.wrote stream (bytes.take taken)], ?_, rfl, ?_⟩
    · split <;> simp
    · exact (Except.error.inj h).symm
  · have complete : (write stream bytes : Action σ Unit).run world = _ := if_neg short
    rw [complete] at h
    cases h

theorem writeLine_error {stream : StreamName} {text : String} {world : World σ}
    {error : BridgeError}
    (h : ((writeLine stream text : Action σ Unit).run world).result = .error error) :
    ∃ accepted : Trace, (∀ event ∈ accepted, ∃ taken, event = .wrote stream taken) ∧
      ((writeLine stream text : Action σ Unit).run world).trace =
        accepted ++ [.failed (.closed stream)] ∧
      error = .stream (.closed stream) :=
  write_error h

/-- Whether an action works, and fails only when a stream closes, by a failure that ends it. -/
structure Action.ClosesOnly (action : Action σ α) : Prop where
  works : action.Leaves Event.isWork
  closes : ∀ world error, (action.run world).result = .error error →
    ∃ (before : Trace) (stream : StreamName),
      (action.run world).trace = before ++ [.failed (.closed stream)] ∧
        error = .stream (.closed stream)

theorem writeLine_closesOnly (stream : StreamName) (text : String) :
    (writeLine stream text : Action σ Unit).ClosesOnly := by
  refine ⟨writeLine_works stream text, fun world error h => ?_⟩
  obtain ⟨accepted, _, trace_eq, error_eq⟩ := writeLine_error h
  exact ⟨accepted, stream, trace_eq, error_eq⟩

theorem Action.ClosesOnly.seq {step rest : Action σ Unit} (first : step.ClosesOnly)
    (second : rest.ClosesOnly) : (step >>= fun _ => rest).ClosesOnly := by
  refine ⟨first.works.seq second.works, fun world error h => ?_⟩
  cases begun : (step.run world).result with
  | error e =>
    rw [run_seq_error begun] at h ⊢
    exact first.closes world error h
  | ok _ =>
    rw [run_bind_ok begun] at h ⊢
    obtain ⟨before, stream, trace_eq, error_eq⟩ := second.closes _ error h
    exact ⟨_, stream, by rw [Outcome.after, trace_eq, List.append_assoc], error_eq⟩

/-- A recovery fails only when a stream closes. -/
theorem recover_error {failure : DaemonFailure} {world : World σ} {error : BridgeError}
    (h : ((recover failure : Action σ Unit).run world).result = .error error) :
    ∃ (recovery : Trace) (stream : StreamName), (∀ event ∈ recovery, event.isWork = true) ∧
      ((recover failure : Action σ Unit).run world).trace =
        .logged (failureRecovered failure.error) :: (recovery ++ [.failed (.closed stream)]) ∧
      error = .stream (.closed stream) := by
  let answering : Action σ Unit := do
    writeLine .out ""
    writeLine .err (resultLine (Text.trimmed failure.captured))
    writeLine .err (errorLine failure.error)
  have closing : answering.ClosesOnly :=
    (writeLine_closesOnly .out "").seq
      ((writeLine_closesOnly .err _).seq (writeLine_closesOnly .err _))
  have logged : (recover failure : Action σ Unit).run world =
      (answering.run world).after [.logged (failureRecovered failure.error)] :=
    run_bind_ok (a := ()) rfl
  rw [logged] at h ⊢
  obtain ⟨recovery, stream, trace_eq, error_eq⟩ := closing.closes world error h
  refine ⟨recovery, stream, fun event member => ?_, ?_, error_eq⟩
  · exact closing.works world event (trace_eq ▸ List.mem_append_left _ member)
  · rw [Outcome.after, trace_eq]
    rfl

inductive Outcome.Stopped (outcome : Outcome σ α) : Prop where
  /-- The line is given up, and both streams are flushed. -/
  | flushed (work : Trace) (works : ∀ event ∈ work, event.isWork = true)
      (trace_eq : outcome.trace = work ++ [.flushed .out, .flushed .err])
  /-- A flush fails. -/
  | unflushed (stream : StreamName) (failed : .failed (.unflushed stream) ∈ outcome.trace)
      (result_eq : ∃ fault, outcome.result = .error (.stream fault))
  /-- A stream closes while a failed inspection is being answered. -/
  | cut (line recovery : Trace) (error : DaemonError) (stream : StreamName)
      (works : ∀ event ∈ line ++ recovery, event.isWork = true)
      (trace_eq : outcome.trace =
        line ++ .logged (failureRecovered error) :: (recovery ++ [.failed (.closed stream)]))
      (result_eq : outcome.result = .error (.stream (.closed stream)))

/-- Work that comes before makes no difference to how a line ends. -/
theorem Outcome.Stopped.after {outcome : Outcome σ α} (stopped : outcome.Stopped) {past : Trace}
    (works : ∀ event ∈ past, event.isWork = true) : (outcome.after past).Stopped := by
  cases stopped with
  | flushed work more trace_eq =>
    refine .flushed (past ++ work) (fun event member => ?_) ?_
    · exact (List.mem_append.mp member).elim (works event) (more event)
    · rw [Outcome.after, trace_eq, List.append_assoc]
  | unflushed stream failed result_eq =>
    exact .unflushed stream (List.mem_append_right past failed) result_eq
  | cut line recovery error stream more trace_eq result_eq =>
    refine .cut (past ++ line) recovery error stream (fun event member => ?_) ?_ result_eq
    · rw [List.append_assoc] at member
      exact (List.mem_append.mp member).elim (works event) (more event)
    · rw [Outcome.after, trace_eq, List.append_assoc]

/-- A step that does not fail leaves the failure to what comes after it. -/
theorem Outcome.Stopped.seq {step rest : Action σ Unit} {world : World σ} {error : BridgeError}
    (works : (step.run world).result = .ok () →
      ∀ event ∈ (step.run world).trace, event.isWork = true)
    (first : ∀ e, (step.run world).result = .error e → (step.run world).Stopped)
    (second : ∀ e, (rest.run (step.run world).world).result = .error e →
      (rest.run (step.run world).world).Stopped)
    (h : ((step >>= fun _ => rest).run world).result = .error error) :
    ((step >>= fun _ => rest).run world).Stopped := by
  cases begun : (step.run world).result with
  | error e =>
    rw [run_seq_error begun]
    exact first e begun
  | ok _ =>
    have whole : (step >>= fun _ => rest).run world =
        (rest.run (step.run world).world).after (step.run world).trace := run_bind_ok begun
    rw [whole] at h ⊢
    exact (second error h).after (works begun)

theorem flush_error {stream : StreamName} {world : World σ} {error : BridgeError}
    (h : ((flush stream : Action σ Unit).run world).result = .error error) :
    ((flush stream : Action σ Unit).run world).trace = [.failed (.unflushed stream)] ∧
      error = .stream (.unflushed stream) := by
  by_cases fails : (world.sink stream).flushFails = true
  · have failed : (flush stream : Action σ Unit).run world = _ := if_pos fails
    rw [failed] at h ⊢
    exact ⟨rfl, (Except.error.inj h).symm⟩
  · have flushed : (flush stream : Action σ Unit).run world = _ := if_neg fails
    rw [flushed] at h
    cases h

theorem flushBoth_error {world : World σ} {error : BridgeError}
    (h : ((flushBoth : Action σ Unit).run world).result = .error error) :
    ∃ stream, .failed (.unflushed stream) ∈ ((flushBoth : Action σ Unit).run world).trace ∧
      error = .stream (.unflushed stream) := by
  unfold flushBoth at h ⊢
  cases first : ((flush .out : Action σ Unit).run world).result with
  | error e =>
    rw [run_seq_error first] at h ⊢
    obtain ⟨trace_eq, error_eq⟩ := flush_error h
    exact ⟨.out, by simp [trace_eq], error_eq⟩
  | ok _ =>
    rw [run_bind_ok first] at h ⊢
    obtain ⟨trace_eq, error_eq⟩ := flush_error h
    exact ⟨.err, by simp [Outcome.after, trace_eq], error_eq⟩

theorem flushBoth_stopped {world : World σ} {error : BridgeError}
    (h : ((flushBoth : Action σ Unit).run world).result = .error error) :
    ((flushBoth : Action σ Unit).run world).Stopped := by
  obtain ⟨stream, failed, rfl⟩ := flushBoth_error h
  exact .unflushed stream failed ⟨_, h⟩

theorem abandon_stopped (error : BridgeError) (world : World σ) :
    ((abandon error : Action σ Unit).run world).Stopped := by
  cases flushes : ((flushBoth : Action σ Unit).run world).result with
  | error e =>
    have failed : (abandon error : Action σ Unit).run world = _ := run_bind_error flushes
    obtain ⟨stream, unflushed, error_eq⟩ := flushBoth_error flushes
    rw [failed]
    exact .unflushed stream unflushed ⟨_, congrArg Except.error error_eq⟩
  | ok _ =>
    have failed : (abandon error : Action σ Unit).run world = _ := run_bind_ok flushes
    rw [failed]
    refine .flushed [] (by simp) ?_
    rw [Outcome.after, flushBoth_ok flushes]
    rfl

/-- A session that gives up with an error of the client has flushed both streams. -/
theorem Outcome.Stopped.flushed_of_daemon {outcome : Outcome σ α} (stopped : outcome.Stopped)
    (alive : ∀ fault, outcome.result ≠ .error (.stream fault)) :
    ∃ work : Trace, (∀ event ∈ work, event.isWork = true) ∧
      outcome.trace = work ++ [.flushed .out, .flushed .err] := by
  cases stopped with
  | flushed work works trace_eq => exact ⟨work, works, trace_eq⟩
  | unflushed _ _ result_eq => exact (result_eq.elim fun fault h => absurd h (alive fault))
  | cut _ _ _ _ _ _ result_eq => exact absurd result_eq (alive _)

section

variable (client : Client σ) (command : Command)

theorem afterFailure_stopped {op : Opcode} {error : BridgeError} {world : World σ}
    {e : BridgeError} (h : ((afterFailure op error : Action σ Unit).run world).result = .error e) :
    ((afterFailure op error : Action σ Unit).run world).Stopped := by
  cases error with
  | daemon failure =>
    by_cases recovers : op.recoverable = true
    · have handled : afterFailure (σ := σ) op (.daemon failure) = recover failure := if_pos recovers
      rw [handled] at h ⊢
      obtain ⟨recovery, stream, works, trace_eq, rfl⟩ := recover_error h
      exact .cut [] recovery failure.error stream works trace_eq h
    · have handled : afterFailure (σ := σ) op (.daemon failure) = abandon (.daemon failure) :=
        if_neg recovers
      rw [handled]
      exact abandon_stopped _ world
  | stream _ => exact abandon_stopped _ world
  | config _ => exact abandon_stopped _ world

theorem answerOpcode_stopped {op : Opcode} {world : World σ} {error : BridgeError}
    (h : ((answerOpcode client command op).run world).result = .error error) :
    ((answerOpcode client command op).run world).Stopped := by
  unfold answerOpcode at h ⊢
  cases performed : ((perform client command op).run world).result with
  | ok _ =>
    rw [run_orElse_ok performed, performed] at h
    cases h
  | error e =>
    rw [run_orElse_error performed] at h ⊢
    exact (afterFailure_stopped h).after (perform_works client command op world)

theorem answerOpcodes_stopped {ops : List Opcode} {world : World σ} {error : BridgeError}
    (h : ((answerOpcodes client command ops).run world).result = .error error) :
    ((answerOpcodes client command ops).run world).Stopped := by
  induction ops generalizing world error with
  | nil => cases h
  | cons op rest ih =>
    exact Outcome.Stopped.seq (fun ok => answerOpcode_works client command ok)
      (fun _ => answerOpcode_stopped client command) (fun _ => ih) h

end

/-- A line whose echo can be written is answered, or given up, or cut short. -/
theorem answerLine_stopped {client : Client σ} {time line : String} {world : World σ}
    {error : BridgeError} (h : ((answerLine client time line).run world).result = .error error)
    (echoed : ((writeLine .err (echoLine (Command.parse line) time)).run world).result = .ok ()) :
    ((answerLine client time line).run world).Stopped := by
  refine Outcome.Stopped.seq (fun _ => writeLine_works .err _ world)
    (fun e failed => by rw [echoed] at failed; cases failed) (fun e failed => ?_) h
  exact Outcome.Stopped.seq (fun ok => answerOpcodes_works client _ ok)
    (fun _ => answerOpcodes_stopped client _) (fun _ => flushBoth_stopped) failed

namespace Trace

/-- Whether a trace ends in the recovery from a failed inspection because a stream closes, when
stdout has taken something for the line that is answered. -/
def CutShort (trace : Trace) : Prop :=
  ∃ (earlier line recovery : Trace) (error : DaemonError) (stream : StreamName) (bytes : Bytes),
    trace = earlier ++ .reading false ::
        (line ++ .logged (failureRecovered error) :: (recovery ++ [.failed (.closed stream)])) ∧
      (∀ event ∈ line ++ recovery, event.isWork = true) ∧ .wrote .out bytes ∈ line ++ recovery

theorem CutShort.after {trace : Trace} (h : trace.CutShort) (past : Trace) :
    (past ++ trace).CutShort := by
  obtain ⟨earlier, line, recovery, error, stream, bytes, rfl, works, taken⟩ := h
  exact ⟨past ++ earlier, line, recovery, error, stream, bytes, by simp, works, taken⟩

/-- What is left when a recovery is cut short is never flushed. -/
theorem CutShort.not_settled {trace : Trace} (h : trace.CutShort) : ¬ trace.Settled .out := by
  obtain ⟨earlier, line, recovery, error, stream, bytes, rfl, works, taken⟩ := h
  let rest : Trace := line ++ .logged (failureRecovered error) :: recovery
  have member : .wrote .out bytes ∈ rest := by
    rcases List.mem_append.mp taken with early | late
    · exact List.mem_append_left _ early
    · exact List.mem_append_right _ (List.mem_cons_of_mem _ late)
  have unflushed : .flushed .out ∉ rest ++ [.failed (.closed stream)] := by
    have noWork : Event.isWork (.flushed .out) ≠ true := by decide
    intro flushed
    simp only [rest, List.append_assoc, List.cons_append, List.mem_append, List.mem_cons,
      reduceCtorEq, List.not_mem_nil, or_false, false_or] at flushed
    exact flushed.elim (fun m => noWork (works _ (List.mem_append_left _ m)))
      fun m => noWork (works _ (List.mem_append_right _ m))
  obtain ⟨before, after, split⟩ := List.append_of_mem member
  intro settled
  have flushed := settled (earlier ++ .reading false :: before)
    (after ++ [.failed (.closed stream)]) bytes (by
      have whole := congrArg (earlier ++ .reading false :: · ++ [.failed (.closed stream)]) split
      simpa [rest] using whole)
  refine unflushed ?_
  rw [split, List.append_assoc]
  exact List.mem_append_right _ (List.mem_cons_of_mem _ flushed)

/-- A trace that shows nothing on a stream has nothing left to flush there. -/
theorem settled_of_silent {stream : StreamName} {trace : Trace}
    (h : ∀ bytes, .wrote stream bytes ∉ trace) : trace.Settled stream :=
  fun _ _ bytes split => absurd (split ▸ by simp) (h bytes)

end Trace

/-- What the end of a session leaves unflushed: nothing when the client ends it or the input does,
and on stdout nothing either, flushes permitting, unless a recovery is cut short. -/
structure Outcome.Ends (outcome : Outcome σ Unit) : Prop where
  settled : (∀ fault, outcome.result ≠ .error (.stream fault)) →
    ∀ stream, outcome.trace.Settled stream
  left : (∀ stream, .failed (.unflushed stream) ∉ outcome.trace) →
    outcome.trace.Settled .out ∨ outcome.trace.CutShort

namespace Outcome.Ends

theorem after {outcome : Outcome σ Unit} (ends : outcome.Ends) {past : Trace}
    (settled : ∀ stream, past.Settled stream) : (outcome.after past).Ends where
  settled alive stream := (settled stream).append (ends.settled alive stream)
  left unfailing := by
    have later := ends.left fun stream member =>
      unfailing stream (List.mem_append_right past member)
    exact later.imp (settled .out).append fun cut => cut.after past

/-- A stream that fails when stdout has been left alone. -/
theorem of_silent {outcome : Outcome σ Unit} (silent : ∀ bytes, .wrote .out bytes ∉ outcome.trace)
    {fault : StreamError} (broken : outcome.result = .error (.stream fault)) : outcome.Ends where
  settled alive := absurd broken (alive fault)
  left _ := .inl (Trace.settled_of_silent silent)

end Outcome.Ends

theorem Outcome.Stopped.ends {outcome : Outcome σ Unit} (stopped : outcome.Stopped) :
    (outcome.after [.reading false]).Ends where
  settled alive stream := by
    obtain ⟨work, _, trace_eq⟩ := stopped.flushed_of_daemon alive
    rw [Outcome.after, trace_eq]
    exact Trace.settled_flushed (.reading false :: work)
  left unfailing := by
    cases stopped with
    | flushed work _ trace_eq =>
      rw [Outcome.after, trace_eq]
      exact .inl (Trace.settled_flushed (.reading false :: work))
    | unflushed stream failed _ =>
      exact absurd (List.mem_cons_of_mem _ failed) (unfailing stream)
    | cut line recovery error stream works trace_eq _ =>
      rw [Outcome.after, trace_eq]
      by_cases taken : ∃ bytes, .wrote .out bytes ∈ line ++ recovery
      · obtain ⟨bytes, member⟩ := taken
        exact .inr ⟨[], line, recovery, error, stream, bytes, rfl, works, member⟩
      · have silent : ∀ bytes, Event.wrote .out bytes ∉ line ++ recovery :=
          fun bytes member => taken ⟨bytes, member⟩
        refine .inl (Trace.settled_of_silent fun bytes member => silent bytes ?_)
        simpa using member

section

variable (client : Client σ) (clock : Nat → String) (unreadable : Option Nat)

/-- A line that cannot be read has done nothing else. -/
theorem await_error {handled : Nat} {endSeen : Bool} {world : World σ} {error : BridgeError}
    (h : ((await unreadable handled endSeen : Action σ Unit).run world).result = .error error) :
    (await unreadable handled endSeen : Action σ Unit).run world =
      ⟨[.reading endSeen, .failed .unread], world, .error (.stream .unread)⟩ := by
  unfold await at h ⊢
  split at h
  · rename_i fails
    rw [if_pos fails]
    rfl
  · cases h

/-- An echo that cannot be written has left stdout alone. -/
theorem answerLine_ends {time line : String} {world : World σ} {error : BridgeError}
    (h : ((answerLine client time line).run world).result = .error error) :
    (((answerLine client time line).run world).after [.reading false]).Ends := by
  cases echoed : ((writeLine .err (echoLine (Command.parse line) time) : Action σ Unit).run
      world).result with
  | ok _ => exact (answerLine_stopped h echoed).ends
  | error e =>
    obtain ⟨accepted, onErr, trace_eq, rfl⟩ := writeLine_error echoed
    have stopped : (answerLine client time line).run world = _ := run_seq_error echoed
    rw [stopped]
    refine Outcome.Ends.after (.of_silent (fun bytes member => ?_) echoed)
      fun _ => Trace.settled_of_silent (by simp)
    rw [trace_eq] at member
    obtain ⟨_, other⟩ := onErr (.wrote .out bytes) (by simpa using member)
    cases other

theorem takeTurn_ends {handled : Nat} {piece : Bytes} {world : World σ} {error : BridgeError}
    (h : ((takeTurn client clock unreadable handled piece).run world).result = .error error) :
    ((takeTurn client clock unreadable handled piece).run world).Ends := by
  cases waited : ((await unreadable handled false : Action σ Unit).run world).result with
  | error e =>
    have stopped : (takeTurn client clock unreadable handled piece).run world = _ :=
      run_seq_error waited
    rw [stopped, await_error unreadable waited]
    exact .of_silent (by simp) rfl
  | ok _ =>
    have begun : (takeTurn client clock unreadable handled piece).run world = _ :=
      run_bind_ok waited
    rw [begun, Outcome.result_after] at h
    rw [begun, await_ok unreadable waited]
    exact answerLine_ends client h

/-- Rounds leave nothing behind, so only the line that ends the session counts. -/
theorem servePieces_ends (handled : Nat) (endSeen : Bool) (pieces : List Bytes) (world : World σ) :
    ((servePieces client clock unreadable handled endSeen pieces).run world).Ends := by
  induction pieces generalizing handled endSeen world with
  | nil =>
    cases waited : ((await unreadable handled endSeen : Action σ Unit).run world).result with
    | error e =>
      have stopped : (servePieces client clock unreadable handled endSeen []).run world = _ :=
        run_seq_error waited
      rw [stopped, await_error unreadable waited]
      exact .of_silent (by simp) rfl
    | ok _ =>
      have ended : (servePieces client clock unreadable handled endSeen []).run world = _ :=
        run_bind_ok waited
      have silent : ∀ stream, ((servePieces client clock unreadable handled endSeen []).run
          world).trace.Settled stream := by
        intro stream
        rw [ended, await_ok unreadable waited]
        exact Trace.settled_of_silent (by simp [Outcome.after, log, emit, Action.run])
      exact ⟨fun _ => silent, fun _ => .inl (silent .out)⟩
  | cons piece rest ih =>
    cases turn : ((takeTurn client clock unreadable handled piece).run world).result with
    | error error =>
      have stopped : (servePieces client clock unreadable handled endSeen (piece :: rest)).run
          world = _ := run_seq_error turn
      exact stopped ▸ takeTurn_ends client clock unreadable turn
    | ok _ =>
      rw [run_servePieces_ok turn]
      exact (ih _ _ _).after fun _ => (takeTurn_isRound client clock unreadable turn).settled

end

namespace Session

/-- As long as no flush fails, whatever stdout has taken has been flushed when the session ends,
with one exception: a recovery from a failed inspection is not completed because a stream closes,
and stdout has taken something for the same line.  A session that does not end with an error of the
streams has flushed both streams in any case. -/
theorem flushed_at_end_iff (client : Client σ) (clock : Nat → String) (input : Input)
    (world : World σ)
    (unfailing : ∀ stream,
      .failed (.unflushed stream) ∉ ((serve client clock input).run world).trace) :
    let session := (serve client clock input).run world
    (session.trace.Settled .out ↔ ¬ session.trace.CutShort) ∧
      ((∀ fault, session.result ≠ .error (.stream fault)) →
        ∀ stream, session.trace.Settled stream) := by
  intro session
  have ends : session.Ends := servePieces_ends client clock input.unreadable 0 false _ world
  refine ⟨⟨fun settled cut => cut.not_settled settled, fun whole => ?_⟩, ends.settled⟩
  exact (ends.left unfailing).resolve_right whole

/-- A suggestion, complete with its marker, that is never flushed: after it, stdout has no room for
the empty line of the failed inspection on the same line. -/
theorem suggestion_left_unflushed :
    let replies : List (Except DaemonError Reply) :=
      [.ok ⟨"[]\n", "", some 0⟩, .ok ⟨"", "", some 2⟩]
    let session :=
      (serve Client.scripted (fun _ => "09:00:00.000000")
        (.ofBytes (Utf8.encode "f::suggest::inspect\nrun\n"))).run ⟨⟨some 11, none⟩, .healthy, replies⟩
    (∀ stream, .failed (.unflushed stream) ∉ session.trace) ∧ session.trace.CutShort ∧
      ¬ session.trace.Settled .out := by
  intro replies session
  let command : Command := ⟨"f", ["suggest", "inspect"]⟩
  let line : Trace := [.wrote .err (Utf8.encode (Deed.echo command "09:00:00.000000")),
    .called (.suggest "f"), .logged (callCompleted (.suggest "f") ⟨"[]\n", "", some 0⟩),
    .wrote .out (Utf8.encode "[]\n"), .logged (suggestionReceived "f" "[]\n"),
    .wrote .out (Utf8.encode "# done!\n"),
    .called (.inspect "f"), .logged (callCompleted (.inspect "f") ⟨"", "", some 2⟩)]
  have shown : session.trace = .reading false ::
      (line ++ .logged (failureRecovered (.exit .inspect 2)) :: ([] ++ [.failed (.closed .out)])) := by
    decide +kernel
  have unfailing : ∀ stream, .failed (.unflushed stream) ∉ session.trace := by
    rw [shown]
    simp [line]
  have cut : session.trace.CutShort :=
    ⟨[], line, [], .exit .inspect 2, .out, Utf8.encode "[]\n", shown, by decide +kernel,
      by decide +kernel⟩
  refine ⟨unfailing, cut, fun settled => ?_⟩
  exact (flushed_at_end_iff Client.scripted _ _ _ unfailing).1.mp settled cut

/-- A failed inspection whose empty line is never flushed, because stderr has room for the echo
only. -/
theorem empty_line_left_unflushed :
    let replies : List (Except DaemonError Reply) := [.ok ⟨"", "", some 2⟩]
    let session :=
      (serve Client.scripted (fun _ => "09:00:00.000000")
        (.ofBytes (Utf8.encode "x::inspect\n"))).run ⟨.healthy, ⟨some 38, none⟩, replies⟩
    (∃ fault, session.result = .error (.stream fault)) ∧
      session.trace.bytesOn .out = [Input.lineFeed] ∧
      (∀ event ∈ session.trace, event.isFlush = false) ∧
      ¬ session.trace.Settled .out := by
  intro replies session
  let before : Trace := [.reading false,
    .wrote .err (Utf8.encode (Deed.echo ⟨"x", ["inspect"]⟩ "09:00:00.000000")),
    .called (.inspect "x"), .logged (callCompleted (.inspect "x") ⟨"", "", some 2⟩),
    .logged (failureRecovered (.exit .inspect 2))]
  have shown : session.trace =
      before ++ .wrote .out [Input.lineFeed] :: [.failed (.closed .err)] := by
    decide +kernel
  have broken : session.trace.faults ≠ [] := by simp [shown, Trace.faults, Event.fault?]
  refine ⟨(servePieces_tracks _ _ none 0 false _ _).result_iff.mpr broken, by decide +kernel, ?_,
    fun settled => ?_⟩
  · rw [shown]
    decide +kernel
  · simpa using settled before [.failed (.closed .err)] [Input.lineFeed] shown

end Session

end EditorBridge
