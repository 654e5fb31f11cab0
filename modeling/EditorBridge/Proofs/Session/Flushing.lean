import EditorBridge.Proofs.Session.Faults

/-!
# Flushes of a session

A line is answered by work, and work does not flush (`Action.Leaves`).  Only when all of it is done
both streams are flushed, stdout first, and only then the next line is waited for.  So whenever a
session starts to read, what came before is a sequence of rounds (`Trace.IsRound`), and nothing of
what a stream has taken is left in it.  A line that fails is the last one that is read.
-/
namespace EditorBridge

open EditorBridge.Action EditorBridge.Session

variable {σ α β : Type}

/-- Whether an event is work on a line: it is no start of a line and no attempt to flush. -/
def Event.isWork : Event → Bool
  | .reading _ => false
  | event => !event.isFlush

/-- Whether an event belongs to the line that is being answered. -/
def Event.isWithin : Event → Bool
  | .reading _ => false
  | _ => true

theorem Event.isWithin_of_isWork {event : Event} (h : event.isWork = true) :
    event.isWithin = true := by
  cases event with
  | reading _ => cases h
  | _ => rfl

/-- Whether an action leaves events of one kind only, however it ends. -/
def Action.Leaves (kind : Event → Bool) (action : Action σ α) : Prop :=
  ∀ world, ∀ event ∈ (action.run world).trace, kind event = true

namespace Action.Leaves

variable {kind : Event → Bool} {action : Action σ α}

theorem mono {kind' : Event → Bool} (leaves : action.Leaves kind)
    (weaker : ∀ event, kind event = true → kind' event = true) : action.Leaves kind' :=
  fun world event member => weaker event (leaves world event member)

theorem bind {next : α → Action σ β} (first : action.Leaves kind)
    (second : ∀ a, (next a).Leaves kind) : (action >>= next).Leaves kind := by
  intro world event member
  cases h : (action.run world).result with
  | error error =>
    rw [run_bind_error h] at member
    exact first world event member
  | ok a =>
    rw [run_bind_ok h] at member
    rcases List.mem_append.mp member with early | late
    · exact first world event early
    · exact second a _ event late

theorem seq {step : Action σ Unit} {rest : Action σ β} (first : step.Leaves kind)
    (second : rest.Leaves kind) : (step >>= fun _ => rest).Leaves kind :=
  first.bind fun _ => second

theorem orElse {handler : BridgeError → Action σ α} (first : action.Leaves kind)
    (second : ∀ error, (handler error).Leaves kind) : (orElse action handler).Leaves kind := by
  intro world event member
  cases h : (action.run world).result with
  | ok a =>
    rw [run_orElse_ok h] at member
    exact first world event member
  | error error =>
    rw [run_orElse_error h] at member
    rcases List.mem_append.mp member with early | late
    · exact first world event early
    · exact second error _ event late

end Action.Leaves

theorem done_leaves (kind : Event → Bool) (a : α) : (done a : Action σ α).Leaves kind :=
  fun _ _ member => by cases member

theorem fail_leaves (kind : Event → Bool) (error : BridgeError) :
    (fail error : Action σ α).Leaves kind :=
  fun _ _ member => by cases member

theorem log_works (record : Logging.Record) : (log record : Action σ Unit).Leaves Event.isWork := by
  intro world event member
  obtain rfl := List.mem_singleton.mp member
  rfl

/-- A write leaves what was taken, and the failure if not all of it was. -/
theorem write_works (stream : StreamName) (bytes : Bytes) :
    (write stream bytes : Action σ Unit).Leaves Event.isWork := by
  intro world event member
  let taken := (world.sink stream).taken bytes.length
  let accepted : Trace := if taken = 0 then [] else [.wrote stream (bytes.take taken)]
  have works : ∀ event ∈ accepted, event.isWork = true := by
    unfold accepted
    split <;> simp [Event.isWork, Event.isFlush]
  by_cases short : taken < bytes.length
  · have cut : ((write stream bytes).run world).trace = accepted ++ [.failed (.closed stream)] :=
      congrArg Outcome.trace (if_pos short)
    rw [cut] at member
    rcases List.mem_append.mp member with early | last
    · exact works event early
    · obtain rfl := List.mem_singleton.mp last
      rfl
  · have complete : ((write stream bytes).run world).trace = accepted :=
      congrArg Outcome.trace (if_neg short)
    exact works event (complete ▸ member)

theorem ask_works (client : Client σ) (request : Request) :
    (ask client request).Leaves Event.isWork := by
  intro world event member
  rcases List.mem_cons.mp member with rfl | own
  · rfl
  · obtain ⟨told, _, rfl⟩ := List.mem_map.mp own
    cases told <;> rfl

theorem writeText_works (stream : StreamName) (text : String) :
    (writeText stream text : Action σ Unit).Leaves Event.isWork :=
  write_works stream _

theorem writeLine_works (stream : StreamName) (text : String) :
    (writeLine stream text : Action σ Unit).Leaves Event.isWork :=
  write_works stream _

theorem settle_works (reply : Reply) (op : Opcode) (captured : String) :
    (settle reply op captured : Action σ Unit).Leaves Event.isWork := by
  unfold settle
  cases reply.error? op with
  | none => exact done_leaves _ ()
  | some error => exact fail_leaves _ _

section

variable (client : Client σ)

theorem call_works (request : Request) : (call client request).Leaves Event.isWork :=
  (ask_works client request).bind fun reply =>
    (writeText_works .err reply.stderr).seq ((log_works _).seq (done_leaves _ reply))

theorem check_works (inspecting : Bool) : (check client inspecting).Leaves Event.isWork := by
  have last : (if inspecting then done () else writeLine .out doneMarker : Action σ Unit).Leaves
      Event.isWork := by
    cases inspecting with
    | true => exact done_leaves _ ()
    | false => exact writeLine_works .out doneMarker
  exact (call_works client .check).bind fun reply =>
    (writeText_works _ reply.stdout).seq
      ((log_works _).seq ((settle_works reply .check "").seq last))

theorem suggest_works (symbol : String) : (suggest client symbol).Leaves Event.isWork :=
  (call_works client (.suggest symbol)).bind fun reply =>
    (writeText_works .out reply.stdout).seq
      ((settle_works reply .suggest "").seq
        ((log_works _).seq (writeLine_works .out doneMarker)))

theorem inspect_works (location : String) : (inspect client location).Leaves Event.isWork :=
  (call_works client (.inspect location)).bind fun reply =>
    (settle_works reply .inspect reply.stdout).seq
      ((writeLine_works .out _).seq (writeLine_works .err _))

theorem perform_works (command : Command) (op : Opcode) :
    (perform client command op).Leaves Event.isWork := by
  cases op with
  | check => exact check_works client _
  | suggest => exact suggest_works client _
  | inspect => exact inspect_works client _

theorem recover_works (failure : DaemonFailure) :
    (recover failure : Action σ Unit).Leaves Event.isWork :=
  (log_works _).seq
    ((writeLine_works .out "").seq ((writeLine_works .err _).seq (writeLine_works .err _)))

end

theorem flush_within (stream : StreamName) :
    (flush stream : Action σ Unit).Leaves Event.isWithin := by
  intro world event member
  by_cases fails : (world.sink stream).flushFails = true
  · have failed : ((flush stream).run world).trace = [.failed (.unflushed stream)] :=
      congrArg Outcome.trace (if_pos fails)
    obtain rfl := List.mem_singleton.mp (failed ▸ member)
    rfl
  · have flushed : ((flush stream).run world).trace = [.flushed stream] :=
      congrArg Outcome.trace (if_neg fails)
    obtain rfl := List.mem_singleton.mp (flushed ▸ member)
    rfl

theorem flushBoth_within : (flushBoth : Action σ Unit).Leaves Event.isWithin :=
  (flush_within .out).seq (flush_within .err)

theorem abandon_within (error : BridgeError) :
    (abandon error : Action σ Unit).Leaves Event.isWithin :=
  flushBoth_within.seq (fail_leaves _ error)

theorem flush_ok {stream : StreamName} {world : World σ}
    (h : ((flush stream : Action σ Unit).run world).result = .ok ()) :
    ((flush stream : Action σ Unit).run world).trace = [.flushed stream] := by
  by_cases fails : (world.sink stream).flushFails = true
  · have failed : ((flush stream : Action σ Unit).run world).result =
        .error (.stream (.unflushed stream)) := congrArg Outcome.result (if_pos fails)
    rw [failed] at h
    cases h
  · exact congrArg Outcome.trace (if_neg fails)

theorem flushBoth_ok {world : World σ}
    (h : ((flushBoth : Action σ Unit).run world).result = .ok ()) :
    ((flushBoth : Action σ Unit).run world).trace = [.flushed .out, .flushed .err] := by
  obtain ⟨_, out_ok, err_ok, whole⟩ := run_bind_eq_ok h
  have whole : ((flushBoth : Action σ Unit).run world).trace = _ := whole
  rw [whole, flush_ok out_ok, flush_ok err_ok]
  rfl

/-- A session that gives up cannot succeed. -/
theorem abandon_ne_ok (error : BridgeError) (world : World σ) :
    ((abandon error : Action σ Unit).run world).result ≠ .ok () := by
  intro h
  obtain ⟨_, _, failed, _⟩ := run_bind_eq_ok h
  cases failed

section

variable (client : Client σ) (command : Command)

theorem afterFailure_within (op : Opcode) (error : BridgeError) :
    (afterFailure op error : Action σ Unit).Leaves Event.isWithin := by
  cases error with
  | daemon failure =>
    simp only [afterFailure]
    split
    · exact (recover_works failure).mono fun _ => Event.isWithin_of_isWork
    · exact abandon_within _
  | stream _ => exact abandon_within _
  | config _ => exact abandon_within _

theorem answerOpcode_within (op : Opcode) :
    (answerOpcode client command op).Leaves Event.isWithin :=
  ((perform_works client command op).mono fun _ => Event.isWithin_of_isWork).orElse
    (afterFailure_within op)

/-- The handler of a failure either recovers, which is work, or ends the session. -/
theorem afterFailure_works {op : Opcode} {error : BridgeError} {world : World σ}
    (h : ((afterFailure op error).run world).result = .ok ()) :
    ∀ event ∈ ((afterFailure op error).run world).trace, event.isWork = true := by
  cases error with
  | daemon failure =>
    by_cases recovers : op.recoverable = true
    · have handled : afterFailure (σ := σ) op (.daemon failure) = recover failure := if_pos recovers
      rw [handled]
      exact recover_works failure world
    · have handled : afterFailure (σ := σ) op (.daemon failure) = abandon (.daemon failure) :=
        if_neg recovers
      rw [handled] at h
      exact absurd h (abandon_ne_ok _ world)
  | stream _ => exact absurd h (abandon_ne_ok _ world)
  | config _ => exact absurd h (abandon_ne_ok _ world)

theorem answerOpcode_works {op : Opcode} {world : World σ}
    (h : ((answerOpcode client command op).run world).result = .ok ()) :
    ∀ event ∈ ((answerOpcode client command op).run world).trace, event.isWork = true := by
  unfold answerOpcode at h ⊢
  have performed := perform_works client command op world
  cases first : ((perform client command op).run world).result with
  | ok _ =>
    rw [run_orElse_ok first]
    exact performed
  | error error =>
    rw [run_orElse_error first] at h ⊢
    intro event member
    rcases List.mem_append.mp member with early | late
    · exact performed event early
    · exact afterFailure_works h event late

theorem answerOpcodes_within (ops : List Opcode) :
    (answerOpcodes client command ops).Leaves Event.isWithin := by
  induction ops with
  | nil => exact done_leaves _ ()
  | cons op rest ih => exact (answerOpcode_within client command op).seq ih

theorem answerOpcodes_works {ops : List Opcode} {world : World σ}
    (h : ((answerOpcodes client command ops).run world).result = .ok ()) :
    ∀ event ∈ ((answerOpcodes client command ops).run world).trace, event.isWork = true := by
  induction ops generalizing world with
  | nil => exact done_leaves _ () world
  | cons op rest ih =>
    obtain ⟨_, first, later, whole⟩ := run_bind_eq_ok h
    have whole : ((answerOpcodes client command (op :: rest)).run world).trace = _ := whole
    rw [whole]
    intro event member
    rcases List.mem_append.mp member with early | late
    · exact answerOpcode_works client command first event early
    · exact ih later event late

end

section

variable (client : Client σ) (time line : String)

theorem answerLine_within : (answerLine client time line).Leaves Event.isWithin :=
  ((writeLine_works .err _).mono fun _ => Event.isWithin_of_isWork).seq
    ((answerOpcodes_within client _ _).seq flushBoth_within)

/-- A line that is answered flushes each stream once, stdout first, after all its work. -/
theorem answerLine_works {world : World σ}
    (h : ((answerLine client time line).run world).result = .ok ()) :
    ∃ work : Trace, (∀ event ∈ work, event.isWork = true) ∧
      ((answerLine client time line).run world).trace = work ++ [.flushed .out, .flushed .err] := by
  let command := Command.parse line
  obtain ⟨_, _, rest_ok, whole⟩ := run_bind_eq_ok h
  obtain ⟨_, answered, flushed, rest⟩ := run_bind_eq_ok rest_ok
  have whole : ((answerLine client time line).run world).trace = _ := whole
  refine ⟨_, ?_, by rw [whole, rest, flushBoth_ok flushed, List.append_assoc]⟩
  intro event member
  rcases List.mem_append.mp member with echo | work
  · exact writeLine_works .err (echoLine command time) world event echo
  · exact answerOpcodes_works client command answered event work

end

/-- Whether everything that a stream has taken has been flushed since. -/
def Trace.Settled (stream : StreamName) (trace : Trace) : Prop :=
  ∀ (before after : Trace) (bytes : Bytes),
    trace = before ++ .wrote stream bytes :: after → .flushed stream ∈ after

/-- A round: a line is read, and worked on, and then each stream is flushed once, stdout first. -/
def Trace.IsRound (trace : Trace) : Prop :=
  ∃ work : Trace, (∀ event ∈ work, event.isWork = true) ∧
    trace = .reading false :: (work ++ [.flushed .out, .flushed .err])

/-- Whether whatever comes before a reading is whole rounds. -/
def Trace.InRounds (trace : Trace) : Prop :=
  ∀ (before after : Trace) (endSeen : Bool), trace = before ++ .reading endSeen :: after →
    ∃ rounds : List Trace, before = rounds.flatten ∧ ∀ round ∈ rounds, round.IsRound

namespace Trace

variable {stream : StreamName}

theorem Settled.append {a b : Trace} (first : a.Settled stream) (second : b.Settled stream) :
    (a ++ b).Settled stream := by
  intro before after bytes split
  rcases List.append_eq_append_iff.mp split with ⟨gap, _, later⟩ | ⟨gap, earlier, same⟩
  · exact second gap after bytes later
  · cases gap with
    | nil => exact second [] after bytes same.symm
    | cons event gap =>
      obtain ⟨rfl, rfl⟩ := List.cons.inj same
      exact List.mem_append_left _ (first before gap bytes earlier)

/-- Flushing both streams settles whatever came before. -/
theorem settled_flushed (trace : Trace) :
    Settled stream (trace ++ [.flushed .out, .flushed .err]) := by
  intro before after bytes split
  rcases List.append_eq_append_iff.mp split with ⟨gap, _, later⟩ | ⟨gap, _, same⟩
  · -- neither of the last two events is a write
    rcases gap with _ | ⟨_, _ | ⟨_, gap⟩⟩ <;> simp at later
  · cases gap with
    | nil => simp at same
    | cons event gap =>
      obtain ⟨rfl, rfl⟩ := List.cons.inj same
      cases stream <;> simp

theorem IsRound.settled {round : Trace} (h : round.IsRound) : round.Settled stream := by
  obtain ⟨work, _, rfl⟩ := h
  exact settled_flushed (.reading false :: work)

theorem settled_flatten {rounds : List Trace} (h : ∀ round ∈ rounds, round.IsRound) :
    Settled stream rounds.flatten := by
  induction rounds with
  | nil =>
    intro before after bytes split
    simp at split
  | cons round rest ih =>
    rw [List.flatten_cons]
    have later := ih fun r member => h r (List.mem_cons_of_mem _ member)
    exact (h round (by simp)).settled.append later

/-- Within one line nothing is read but at its start. -/
theorem inRounds_reading (endSeen : Bool) {rest : Trace}
    (within : ∀ event ∈ rest, event.isWithin = true) :
    InRounds (.reading endSeen :: rest) := by
  intro before after seen split
  cases before with
  | nil => exact ⟨[], rfl, by simp⟩
  | cons event before =>
    obtain ⟨_, rfl⟩ := List.cons.inj split
    have impossible : (Event.reading seen).isWithin = true := within _ (by simp)
    cases impossible

theorem IsRound.inRounds {round more : Trace} (h : round.IsRound) (later : more.InRounds) :
    InRounds (round ++ more) := by
  intro before after endSeen split
  rcases List.append_eq_append_iff.mp split with ⟨gap, rfl, rest⟩ | ⟨gap, whole, same⟩
  · obtain ⟨rounds, rfl, all⟩ := later gap after endSeen rest
    exact ⟨round :: rounds, rfl, by simpa using ⟨h, all⟩⟩
  · cases gap with
    | nil =>
      rw [List.append_nil] at whole
      exact ⟨[round], by simp [whole], by simpa using h⟩
    | cons event gap =>
      -- a reading inside the round is the one that it starts with
      obtain ⟨rfl, rfl⟩ := List.cons.inj same
      obtain ⟨work, works, shape⟩ := h
      have within : ∀ event ∈ work ++ [.flushed .out, .flushed .err], event.isWithin = true := by
        intro event member
        rcases List.mem_append.mp member with worked | flushed
        · exact Event.isWithin_of_isWork (works event worked)
        · simp only [List.mem_cons, List.not_mem_nil, or_false] at flushed
          rcases flushed with rfl | rfl <;> rfl
      exact inRounds_reading false within before gap endSeen (shape ▸ whole)

end Trace

section

variable (client : Client σ) (clock : Nat → String) (unreadable : Option Nat)

/-- Whatever follows the start of a reading belongs to the same line. -/
theorem await_seq_trace {rest : Action σ Unit} (within : rest.Leaves Event.isWithin) (handled : Nat)
    (endSeen : Bool) (world : World σ) :
    ∃ later : Trace, (∀ event ∈ later, event.isWithin = true) ∧
      ((await unreadable handled endSeen >>= fun _ => rest).run world).trace =
        .reading endSeen :: later := by
  let judged : Action σ Unit :=
    if !endSeen && unreadable == some handled then fault .unread else done ()
  have judging : judged.Leaves Event.isWithin := by
    unfold judged
    split
    · intro world event member
      obtain rfl := List.mem_singleton.mp member
      rfl
    · exact done_leaves _ ()
  have unfolded := run_bind_bind (emit (.reading endSeen)) (fun _ => judged) (fun _ => rest) world
  have begun : (emit (.reading endSeen) >>= fun _ => judged >>= fun _ => rest).run world =
      ((judged >>= fun _ => rest).run world).after [.reading endSeen] := run_bind_ok (a := ()) rfl
  refine ⟨((judged >>= fun _ => rest).run world).trace, judging.seq within world, ?_⟩
  exact congrArg Outcome.trace (unfolded.trans begun)

theorem await_ok {handled : Nat} {endSeen : Bool} {world : World σ}
    (h : ((await unreadable handled endSeen : Action σ Unit).run world).result = .ok ()) :
    ((await unreadable handled endSeen : Action σ Unit).run world).trace = [.reading endSeen] := by
  obtain ⟨_, _, judged, whole⟩ := run_bind_eq_ok h
  have whole : ((await unreadable handled endSeen : Action σ Unit).run world).trace = _ := whole
  rw [whole]
  by_cases fails : (!endSeen && unreadable == some handled) = true
  · simp only [fails, if_true] at judged
    cases judged
  · simp only [fails, Bool.false_eq_true, if_false]
    rfl

theorem takeTurn_isRound {handled : Nat} {piece : Bytes} {world : World σ}
    (h : ((takeTurn client clock unreadable handled piece).run world).result = .ok ()) :
    ((takeTurn client clock unreadable handled piece).run world).trace.IsRound := by
  obtain ⟨_, waited, answered, whole⟩ := run_bind_eq_ok h
  have whole : ((takeTurn client clock unreadable handled piece).run world).trace = _ := whole
  obtain ⟨work, works, shown⟩ := answerLine_works client _ _ answered
  exact ⟨work, works, by rw [whole, await_ok unreadable waited, shown]; rfl⟩

/-- A session starts to read only when all rounds before are complete. -/
theorem servePieces_inRounds (handled : Nat) (endSeen : Bool) (pieces : List Bytes)
    (world : World σ) :
    ((servePieces client clock unreadable handled endSeen pieces).run world).trace.InRounds := by
  induction pieces generalizing handled endSeen world with
  | nil =>
    have closing : (log (inputClosed handled) : Action σ Unit).Leaves Event.isWithin :=
      (log_works _).mono fun _ => Event.isWithin_of_isWork
    obtain ⟨later, within, shown⟩ := await_seq_trace unreadable closing handled endSeen world
    exact shown ▸ Trace.inRounds_reading endSeen within
  | cons piece rest ih =>
    cases turn : ((takeTurn client clock unreadable handled piece).run world).result with
    | error error =>
      have answering := answerLine_within client (clock handled) (Utf8.decodeLossy piece)
      obtain ⟨later, within, shown⟩ :=
        await_seq_trace unreadable answering handled false world
      have ended : ((servePieces client clock unreadable handled endSeen (piece :: rest)).run
          world).trace = .reading false :: later :=
        (congrArg Outcome.trace (run_servePieces_error turn endSeen rest)).trans shown
      exact ended ▸ Trace.inRounds_reading false within
    | ok _ =>
      rw [run_servePieces_ok turn]
      exact (takeTurn_isRound client clock unreadable turn).inRounds (ih _ _ _)

end

namespace Session

/-- Whenever a session starts to read a line, or to find the end of the input, whole rounds have
come before and each stream has flushed all that it has taken.  A line that is answered without an
error flushes each stream once, stdout first, after all its work. -/
theorem flushed_before_reading (client : Client σ) (clock : Nat → String) (input : Input)
    (world : World σ) :
    (∀ (before after : Trace) (endSeen : Bool),
      ((serve client clock input).run world).trace = before ++ .reading endSeen :: after →
        (∀ stream, before.Settled stream) ∧
          ∃ rounds : List Trace, before = rounds.flatten ∧ ∀ round ∈ rounds, round.IsRound) ∧
      ∀ (time line : String) (world : World σ),
        ((answerLine client time line).run world).result = .ok () →
          ∃ work : Trace, (∀ event ∈ work, event.isWork = true) ∧
            ((answerLine client time line).run world).trace =
              work ++ [.flushed .out, .flushed .err] := by
  refine ⟨fun before after endSeen split => ?_, fun time line world answered => ?_⟩
  · have inRounds := servePieces_inRounds client clock input.unreadable 0 false
      (Input.pieces input.bytes) world
    obtain ⟨rounds, rfl, all⟩ := inRounds before after endSeen split
    exact ⟨fun stream => Trace.settled_flatten all, rounds, rfl, all⟩
  · exact answerLine_works client time line answered

end Session

end EditorBridge
