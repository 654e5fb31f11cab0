import EditorBridge.Proofs.Session.Transcript

/-!
# The order of tokens

What a session does about a line depends on the first token of the line, and on which opcodes stand
among its tokens; neither their order, nor how often they stand there, nor any other token matters.
Only the echo of the line tells all tokens (`answer_by_opcodes`).

After the echo there is no second run to compare: with these tokens agreeing, the two lines set the
same action (`answerEchoed_congr`).  Which requests it makes, and in which order, is read off the
conversation of the line.
-/
namespace EditorBridge

open EditorBridge.Action EditorBridge.Session

namespace Command

/-- Whether two commands have the same first token and the same opcodes among their tokens. -/
structure AsksTheSame (command command' : Command) : Prop where
  first : command'.tokens.head? = command.tokens.head?
  opcodes : ∀ token ∈ ["run", "suggest", "inspect"],
    token ∈ command'.tokens ↔ token ∈ command.tokens

variable {command command' : Command}

theorem name_mem_names (op : Opcode) : op.name ∈ ["run", "suggest", "inspect"] := by
  cases op <;> simp [Opcode.name]

theorem AsksTheSame.argument_eq (same : AsksTheSame command command') :
    command'.argument = command.argument :=
  Option.some.inj same.first

theorem AsksTheSame.has_eq (same : AsksTheSame command command') : command'.has = command.has := by
  funext op
  rw [has, has, Bool.eq_iff_iff, List.contains_iff_mem, List.contains_iff_mem]
  exact same.opcodes op.name (name_mem_names op)

/-- The operations asked for are the same, in the same order. -/
theorem AsksTheSame.opcodes_eq (same : AsksTheSame command command') :
    command'.opcodes = command.opcodes := by
  rw [Command.opcodes, Command.opcodes, same.has_eq]

theorem opcodes_eq_nil (none : ∀ token ∈ ["run", "suggest", "inspect"], token ∉ command.tokens) :
    command.opcodes = [] := by
  refine List.filter_eq_nil_iff.mpr fun op _ => ?_
  rw [has, List.contains_iff_mem]
  exact none op.name (name_mem_names op)

/-- The requests of a command, each at most once: a check before a suggestion, and a suggestion
before an inspection. -/
def asked (command : Command) : List Request :=
  ([Opcode.check, .suggest, .inspect].filter fun op => op.name ∈ command.tokens).map
    (.about command.argument)

theorem asked_eq (command : Command) :
    command.asked = command.opcodes.map (.about command.argument) := by
  refine congrArg (List.map _) (List.filter_congr fun op _ => ?_)
  rw [has, Bool.eq_iff_iff, List.contains_iff_mem, decide_eq_true_iff]

end Command

namespace Session

variable {σ : Type} (client : Client σ) {command command' : Command}

/-- An operation is carried out by the first token and by whether an inspection is asked for. -/
theorem perform_congr (same : command.AsksTheSame command') (op : Opcode) :
    perform client command' op = perform client command op := by
  cases op <;> simp only [perform, same.argument_eq, same.has_eq]

theorem answerOpcodes_congr (same : command.AsksTheSame command') (ops : List Opcode) :
    answerOpcodes client command' ops = answerOpcodes client command ops := by
  induction ops with
  | nil => rfl
  | cons op rest ih =>
    simp only [answerOpcodes, answerOpcode, perform_congr client same op, ih]

/-- What is done about a command once it has been echoed. -/
def answerEchoed (command : Command) : Action σ Unit := do
  answerOpcodes client command command.opcodes
  flushBoth

theorem answerEchoed_congr (same : command.AsksTheSame command') :
    answerEchoed client command' = answerEchoed client command := by
  rw [answerEchoed, answerEchoed, same.opcodes_eq, answerOpcodes_congr client same]

/-- On healthy streams a line is echoed, in one write, and then it is answered. -/
theorem run_answerLine_healthy (state : σ) (time line : String) :
    (answerLine client time line).run (.healthy state) =
      ((answerEchoed client (Command.parse line)).run (.healthy state)).after
        [.wrote .err (Utf8.encode (Deed.echo (Command.parse line) time))] := by
  let echo := Utf8.encode (Deed.echo (Command.parse line) time)
  have nonempty : echo.length ≠ 0 := by
    unfold echo
    rw [Ne, List.length_eq_zero_iff, Utf8.encode_eq_nil_iff, Deed.echo]
    simp
  have echoed : (writeLine .err (echoLine (Command.parse line) time)).run (.healthy state) =
      ⟨[.wrote .err echo], .healthy state, .ok ()⟩ := by
    have written : (write .err echo).run (.healthy state) =
        ⟨if echo.length = 0 then [] else [.wrote .err echo], .healthy state, .ok ()⟩ :=
      run_write_healthy state .err echo
    rwa [if_neg nonempty] at written
  have answered : answerLine client time line =
      (writeLine .err (echoLine (Command.parse line) time) >>= fun _ =>
        answerEchoed client (Command.parse line)) := rfl
  rw [answered, run_bind_ok (congrArg Outcome.result echoed), echoed]

/-- Without an opcode nothing is left to do but to flush both streams. -/
theorem run_answerEchoed_of_no_opcode (state : σ) (none : command.opcodes = []) :
    (answerEchoed client command).run (.healthy state) =
      ⟨[.flushed .out, .flushed .err], .healthy state, .ok ()⟩ := by
  rw [answerEchoed, none]
  rfl

/-- The requests are made in their order, and all of them are made unless a failure ends the
session. -/
theorem requests_answerEchoed (state : σ) (command : Command) :
    let outcome := (answerEchoed client command).run (.healthy state)
    outcome.trace.requests <+: command.asked ∧
      (outcome.result = .ok () → outcome.trace.requests = command.asked) := by
  intro outcome
  let deeds := client.carryOut state (command.opcodes.map (.request command))
  -- No deed of these is an echo, so the time of day does not matter.
  have accord : outcome.Accords client (fun _ => "") state deeds :=
    answerOpcodes_flushBoth_accords command
  have all : deeds.filterMap Deed.request? = command.asked := by
    rw [client.requests_carryOut, List.filterMap_map, command.asked_eq]
    exact List.filterMap_eq_map ▸ rfl
  have made : outcome.trace.requests = (Deed.upToFatal deeds).filterMap Deed.request? := by
    rw [Trace.requests_eq, accord.signs_eq, Deed.requests_flatMap_signs]
  rw [made, ← all]
  refine ⟨(Deed.upToFatal_isPrefix deeds).filterMap _, fun succeeded => ?_⟩
  have unfailing : deeds.findSome? Deed.fatal? = none := by
    have ended : outcome.result = verdict (deeds.findSome? Deed.fatal?) := accord.result_eq
    rw [succeeded] at ended
    cases failure : deeds.findSome? Deed.fatal? with
    | none => rfl
    | some error => rw [failure] at ended; cases ended
  rw [Deed.upToFatal_of_none unfailing]

/-- Lines with the same first token and the same opcodes are answered alike.  On healthy streams
each is echoed, and what follows the echo is the same, event by event: the requests, the bytes on
both streams, the result, and the state that the client is left in.  The requests come in the order
of the operations, whatever the order of the tokens, and only a failure that ends the session keeps
the last of them from being made.  A line without an opcode is echoed, and that is all. -/
theorem answer_by_opcodes (client : Client σ) (state : σ) (time time' line line' : String)
    (same : (Command.parse line).AsksTheSame (Command.parse line')) :
    let command := Command.parse line
    let outcome := (answerLine client time line).run (.healthy state)
    let outcome' := (answerLine client time' line').run (.healthy state)
    let echo := Utf8.encode (Deed.echo command time)
    let echo' := Utf8.encode (Deed.echo (Command.parse line') time')
    (∃ rest : Trace,
      outcome.trace = .wrote .err echo :: rest ∧ outcome'.trace = .wrote .err echo' :: rest) ∧
    outcome'.trace.requests = outcome.trace.requests ∧
    outcome'.trace.bytesOn .out = outcome.trace.bytesOn .out ∧
    (∃ said : Bytes,
      outcome.trace.bytesOn .err = echo ++ said ∧ outcome'.trace.bytesOn .err = echo' ++ said) ∧
    outcome'.result = outcome.result ∧
    outcome'.world = outcome.world ∧
    outcome.trace.requests <+: command.asked ∧
    (outcome.result = .ok () → outcome.trace.requests = command.asked) ∧
    ((∀ token ∈ ["run", "suggest", "inspect"], token ∉ command.tokens) →
      outcome.trace.requests = [] ∧
      outcome.trace.bytesOn .out = [] ∧
      outcome.trace.bytesOn .err = echo ∧
      outcome.result = .ok () ∧
      outcome.world = .healthy state) := by
  intro command outcome outcome' echo echo'
  obtain ⟨answered, answered_eq⟩ : ∃ answered : Outcome σ Unit,
      answered = (answerEchoed client command).run (.healthy state) := ⟨_, rfl⟩
  have first : outcome = answered.after [.wrote .err echo] := by
    rw [answered_eq]
    exact run_answerLine_healthy client state time line
  have second : outcome' = answered.after [.wrote .err echo'] := by
    rw [answered_eq, ← answerEchoed_congr client same]
    exact run_answerLine_healthy client state time' line'
  obtain ⟨ordered, complete⟩ := requests_answerEchoed client state command
  rw [← answered_eq] at ordered complete
  rw [first, second]
  clear_value echo echo'
  refine ⟨⟨answered.trace, rfl, rfl⟩, rfl, rfl, ⟨_, rfl, rfl⟩, rfl, rfl, ordered, complete,
    fun none => ?_⟩
  have idle : answered = ⟨[.flushed .out, .flushed .err], .healthy state, .ok ()⟩ := by
    rw [answered_eq]
    exact run_answerEchoed_of_no_opcode client state (Command.opcodes_eq_nil none)
  rw [idle]
  exact ⟨rfl, rfl, List.append_nil echo, rfl, rfl⟩

/-- A check and an inspection that fails, asked for in both orders, with repetitions and tokens that
ask for nothing; and two lines that ask for nothing at all. -/
theorem answer_by_opcodes_of_repeats :
    let line := "m.f::run::foo::inspect"
    let line' := "m.f::inspect::run::::run\n"
    let replies : List (Except DaemonError Reply) :=
      [.ok ⟨"m.py:1: error: x\n", "", some 1⟩, .ok ⟨"", "no\n", some 2⟩]
    let outcome := (answerLine Client.scripted "09:00:00.000000" line).run (.healthy replies)
    let outcome' := (answerLine Client.scripted "09:00:01.000000" line').run (.healthy replies)
    let idle := (answerLine Client.scripted "09:00:02.000000" "m.f::ran").run (.healthy replies)
    (Command.parse line).AsksTheSame (Command.parse line') ∧
      outcome.result = .ok () ∧
      outcome.trace.requests = [.check, .inspect "m.f"] ∧
      outcome'.trace.requests = [.check, .inspect "m.f"] ∧
      outcome'.trace.bytesOn .out = outcome.trace.bytesOn .out ∧
      outcome'.world = outcome.world ∧
      (Command.parse "m.f::ran").AsksTheSame (Command.parse "m.f") ∧
      idle.trace.requests = [] ∧ idle.trace.bytesOn .out = [] := by
  intro line line' replies outcome outcome' idle
  have same : (Command.parse line).AsksTheSame (Command.parse line') :=
    ⟨by decide +kernel, by decide +kernel⟩
  have neither : (Command.parse "m.f::ran").AsksTheSame (Command.parse "m.f") :=
    ⟨by decide +kernel, by decide +kernel⟩
  have asked : (Command.parse line).asked = [.check, .inspect "m.f"] := by decide +kernel
  have finished : outcome.result.toOption = some () := by decide +kernel
  have succeeded : outcome.result = .ok () := by
    cases result : outcome.result with
    | ok _ => rfl
    | error error => rw [result] at finished; cases finished
  obtain ⟨_, requests, out, _, _, world, _, complete, _⟩ :=
    answer_by_opcodes Client.scripted replies "09:00:00.000000" "09:00:01.000000" line line' same
  obtain ⟨_, _, _, _, _, _, _, _, silent⟩ :=
    answer_by_opcodes Client.scripted replies "09:00:02.000000" "" "m.f::ran" "m.f" neither
  have made : outcome.trace.requests = [.check, .inspect "m.f"] := (complete succeeded).trans asked
  have still := silent (by decide +kernel)
  exact ⟨same, succeeded, made, requests.trans made, out, world, neither, still.1, still.2.1⟩

end Session

end EditorBridge
