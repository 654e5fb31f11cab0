import EditorBridge.Proofs.Daemon.Forwarding
import EditorBridge.Proofs.Json.RoundTrip
import EditorBridge.Proofs.Session.StdoutLines
import EditorBridge.Proofs.Session.TokenOrder
import EditorBridge.Proofs.Session.Verdicts
import EditorBridge.Proofs.StandIn.Calls
import EditorBridge.Proofs.Text.Decoding
import EditorBridge.Proofs.Text.Trimming

/-!
# Suggestions of the stand-in

Whatever symbol the stand-in is asked about, it says one line, and the line is an array of one
suggestion that names the symbol.  So the bridge passes it on as it is, marks it as complete and
logs that one suggestion was received (`suggestions_understood`).  A session over the stand-in never
takes a suggestion for anything else.
-/
namespace EditorBridge

open EditorBridge.Action EditorBridge.Session

variable {ρ σ : Type}

namespace StandIn

def fieldsFor (symbol : String) : List (List Char × Json) :=
  ("func_name".toList, .string symbol.toList) :: suggestionFields

theorem suggestions_eq (symbol : String) :
    suggestions symbol = .array [.object (fieldsFor symbol)] := rfl

theorem readable_suggestions (symbol : String) (room : Nat) :
    Json.Readable (room + 4) (suggestions symbol) := by
  have one : Json.IsNumber ['1'] :=
    ⟨by decide +kernel, ⟨['1'], [], false, []⟩, by decide +kernel, by decide +kernel⟩
  have zero : Json.IsNumber ['0'] :=
    ⟨by decide +kernel, ⟨['0'], [], false, []⟩, by decide +kernel, by decide +kernel⟩
  have signature : Json.Readable (room + 2)
      (.object [("arg_types".toList, .array [.string "int".toList]),
        ("return_type".toList, .string "str".toList)]) := by
    refine .object ?_
    simp only [List.forall_mem_cons]
    exact ⟨.array fun _ member => List.mem_singleton.mp member ▸ .string room _, .string _ _,
      by simp⟩
  have suggestion : Json.Readable (room + 3) (.object (fieldsFor symbol)) := by
    refine .object ?_
    simp only [fieldsFor, suggestionFields, List.forall_mem_cons]
    exact ⟨.string _ _, .number _ one, .string _ _, .number _ zero, signature, by simp⟩
  exact .array fun _ member => List.mem_singleton.mp member ▸ suggestion

/-- The line without its line feed. -/
def suggestionText (symbol : String) : String := String.ofList (suggestions symbol).render

theorem suggestionLine_eq_append (symbol : String) :
    suggestionLine symbol = suggestionText symbol ++ "\n" := by
  rw [suggestionLine, suggestionText, ← String.toList_inj]
  simp

/-- The text is read back as the suggestions it was written for. -/
theorem parse?_suggestionText (symbol : String) :
    Json.parse? (suggestionText symbol).toList = some (suggestions symbol) := by
  rw [suggestionText, String.toList_ofList]
  exact Json.parse?_render (readable_suggestions symbol 123)

/-- Every character that could end the line is escaped. -/
theorem lineFeed_not_mem_suggestionText (symbol : String) :
    '\n' ∉ (suggestionText symbol).toList := by
  rw [suggestionText, String.toList_ofList]
  intro member
  have visible := Json.plain_render (readable_suggestions symbol 0) '\n' member
  exact absurd visible (by decide)

theorem oneLine_suggestionLine (symbol : String) :
    Input.OneLine (Utf8.encode (suggestionLine symbol)) := by
  rw [suggestionLine_eq_append]
  constructor
  · rw [Utf8.count_lineFeed_encode, String.toList_append, List.count_append,
      List.count_eq_zero.mpr (lineFeed_not_mem_suggestionText symbol)]
    rfl
  · exact (Utf8.getLast?_encode_iff (a := '\n') (by decide) _).mpr (by simp)

/-- An array is written between its brackets, so that there is nothing to trim but the line feed.
-/
theorem trim_suggestionLine (symbol : String) :
    Text.trim (suggestionLine symbol).toList = (suggestionText symbol).toList := by
  have written : (suggestionText symbol).toList =
      '[' :: Json.renderItems [.object (fieldsFor symbol)] ++ [']'] := by
    rw [suggestionText, String.toList_ofList, suggestions_eq, Json.render]
  have start : (suggestionText symbol).toList.head? = some '[' := by
    rw [written, List.cons_append, List.head?_cons]
  have stop : (suggestionText symbol).toList.getLast? = some ']' := by
    rw [written, List.getLast?_concat]
  have bounded : Text.trim (suggestionText symbol).toList = (suggestionText symbol).toList := by
    rw [Text.trim_eq_self_iff, start, stop]
    exact ⟨by rintro c ⟨⟩; decide, by rintro c ⟨⟩; decide⟩
  have ended : (suggestionLine symbol).toList =
      [] ++ (suggestionText symbol).toList ++ ['\n'] := by
    rw [suggestionLine_eq_append, String.toList_append, List.nil_append]
    rfl
  rw [ended, Text.trim_append _ rfl (by decide), bounded]

/-- The bridge takes the line for one suggestion. -/
theorem suggestionReceived_suggestionLine (symbol : String) :
    suggestionReceived symbol (suggestionLine symbol) = suggestionsReceived symbol 1 := by
  rw [suggestionReceived, trim_suggestionLine, parse?_suggestionText]
  rfl

theorem answer_suggest {scenario : Scenario} (noCrash : scenario ≠ .crash) (symbol : String)
    (rest : List String) :
    answer scenario ("suggest" :: symbol :: rest) = output (suggestionLine symbol) "" 0 := by
  simp only [answer, if_neg noCrash, List.headD_cons]

section

variable (command : Command) (stderr : String)

/-- The exchange in which a suggestion for the first token comes with status zero. -/
def exchange : Exchange :=
  ⟨command, .suggest, .ok ⟨suggestionLine command.argument, stderr, some 0⟩⟩

/-- The line is passed on and marked. -/
theorem answer_exchange :
    (exchange command stderr).answer = suggestionLine command.argument ++ Exchange.markerLine :=
  Exchange.answer_of_marked rfl

theorem verdicts_exchange :
    (exchange command stderr).verdicts = [suggestionsReceived command.argument 1] := by
  rw [← suggestionReceived_suggestionLine]
  rfl

end

end StandIn

section

variable (client : Client σ) (state : σ) {command : Command} {reply : Reply}

/-- On a line that asks for nothing but a suggestion, what is logged is what is logged about the
suggestion. -/
theorem records_answerEchoed_suggest (only : command.opcodes = [.suggest])
    (answered : (client.invoke (.suggest command.argument) state).reply = .ok reply)
    (accepted : reply.error? .suggest = none) :
    ((answerEchoed client command).run (.healthy state)).trace.records =
      client.ownRecords state (.suggest command.argument) ++
        [callCompleted (.suggest command.argument) reply,
          suggestionReceived command.argument reply.stdout] := by
  let after := (client.invoke (.suggest command.argument) state).state
  have performed : ((suggest client command.argument).run (.healthy state)).Yields
      (Exchange.signs ⟨command, .suggest, (client.invoke (.suggest command.argument) state).reply⟩)
      after
      (verdict (Exchange.failure?
        ⟨command, .suggest, (client.invoke (.suggest command.argument) state).reply⟩)) :=
    suggest_yields client command state
  rw [answered, Exchange.failure?_reply, accepted] at performed
  have handled : (answerOpcode client command .suggest).run (.healthy state) =
      (suggest client command.argument).run (.healthy state) :=
    run_orElse_ok performed.result_eq
  rw [← handled] at performed
  have answeredAll : ((answerOpcodes client command [.suggest]).run (.healthy state)).Yields _
      after (.ok ()) :=
    performed.seq (done_yields after ())
  have silent : (flushBoth.run (.healthy after)).trace.records = [] := rfl
  rw [answerEchoed, only, records_bind answeredAll, silent, List.append_nil, answerOpcodes,
    records_bind performed, handled, records_suggest answered, if_pos accepted]
  exact List.append_nil _

/-- Once its line has been echoed, a suggestion that comes with the stand-in's line is passed on and
marked, and the session goes on. -/
theorem answerEchoed_suggestionLine (only : command.opcodes = [.suggest]) {stderr : String}
    (answered : (client.invoke (.suggest command.argument) state).reply =
      .ok ⟨StandIn.suggestionLine command.argument, stderr, some 0⟩) :
    let outcome := (answerEchoed client command).run (.healthy state)
    outcome.result = .ok () ∧
      outcome.trace.bytesOn .out =
        Utf8.encode (StandIn.suggestionLine command.argument ++ Exchange.markerLine) := by
  intro outcome
  let exchange : Exchange := StandIn.exchange command stderr
  have told : client.carryOut state (command.opcodes.map (.request command)) =
      [.exchange exchange] := by
    rw [only, List.map_singleton, Client.carryOut]
    simp only [Request.about, answered]
    rfl
  -- No deed of these is an echo, so the time of day does not matter.
  have accord : outcome.Accords client (fun _ => "") state [.exchange exchange] :=
    told ▸ answerOpcodes_flushBoth_accords command
  have signs : outcome.trace.signs = (Deed.exchange exchange).signs (fun _ => "") := by
    rw [accord.signs_eq, Deed.upToFatal_singleton, List.flatMap_singleton]
  refine ⟨accord.result_eq, ?_⟩
  rw [Trace.bytesOn_eq, signs, Deed.bytesOn_out_signs, ← StandIn.answer_exchange command stderr]
  rfl

/-- A line that asks for nothing but a suggestion, which comes with the stand-in's line. -/
theorem answerLine_suggestionLine (time : String) {line stderr : String}
    (only : (Command.parse line).opcodes = [.suggest])
    (answered : (client.invoke (.suggest (Command.parse line).argument) state).reply =
      .ok ⟨StandIn.suggestionLine (Command.parse line).argument, stderr, some 0⟩) :
    let symbol := (Command.parse line).argument
    let reply : Reply := ⟨StandIn.suggestionLine symbol, stderr, some 0⟩
    let outcome := (answerLine client time line).run (.healthy state)
    outcome.result = .ok () ∧
      outcome.trace.requests = [.suggest symbol] ∧
      outcome.trace.bytesOn .out =
        Utf8.encode (StandIn.suggestionLine symbol ++ Exchange.markerLine) ∧
      outcome.trace.records = client.ownRecords state (.suggest symbol) ++
        [callCompleted (.suggest symbol) reply, suggestionsReceived symbol 1] := by
  intro symbol reply outcome
  obtain ⟨echo, echoed⟩ : ∃ echo, outcome =
      ((answerEchoed client (Command.parse line)).run (.healthy state)).after
        [.wrote .err echo] :=
    ⟨_, run_answerLine_healthy client state time line⟩
  obtain ⟨succeeded, passed⟩ := answerEchoed_suggestionLine client state only answered
  have asked := (requests_answerEchoed client state (Command.parse line)).2 succeeded
  rw [Command.asked_eq, only] at asked
  have logged := records_answerEchoed_suggest client state only answered rfl
  rw [StandIn.suggestionReceived_suggestionLine] at logged
  -- The echo makes no request, is not on stdout and is not logged.
  have unasked : Trace.requests [.wrote .err echo] = [] := rfl
  have unseen : Trace.bytesOn .out [.wrote .err echo] = [] := rfl
  have unlogged : Trace.records [.wrote .err echo] = [] := rfl
  rw [echoed, Outcome.result_after, Outcome.trace_after, Trace.requests_append, unasked, asked,
    Trace.bytesOn_append, unseen, passed, Trace.records_append, unlogged, logged]
  exact ⟨succeeded, rfl, List.nil_append _, List.nil_append _⟩

end

theorem Exchange.of_suggested? {exchange : Exchange} {symbol : String}
    (suggested : exchange.suggested? = some symbol) :
    exchange.opcode = .suggest ∧ exchange.failure? = none ∧
      exchange.command.argument = symbol := by
  unfold suggested? at suggested
  cases op : exchange.opcode <;> simp_all

/-- Only a complete suggestion has a verdict. -/
theorem Deed.verdicts_of_suggested?_eq_none {deed : Deed} (other : deed.suggested? = none) :
    deed.verdicts = [] := by
  cases deed with
  | line _ _ => rfl
  | finish => rfl
  | exchange e =>
    have none_suggested : e.suggested? = none := other
    rw [verdicts, Exchange.verdicts, none_suggested]
    rfl

/-- A launcher for which every program is the stand-in: a run that gives an output gives what the
stand-in says, in some scenario, at some place, and with or without a file for its record. -/
def Launcher.IsStandIn (launcher : Launcher ρ) : Prop :=
  ∀ (invocation : Execution.Invocation) (timeout : Option Nat) (site : Site ρ)
    (output : Execution.Output), (launcher.run invocation timeout site).2 = .ok output →
      ∃ tree directory scenario log,
        output = (StandIn.run tree directory scenario log invocation.arguments).2

/-- The stand-in as a launcher: it always answers, and keeps no record. -/
def Launcher.standIn (scenario : StandIn.Scenario) : Launcher ρ where
  run invocation _ site :=
    let (files, output) :=
      StandIn.run site.files site.directory scenario none invocation.arguments
    ({ site with files }, .ok output)

theorem Launcher.isStandIn_standIn (scenario : StandIn.Scenario) :
    (standIn scenario : Launcher ρ).IsStandIn := by
  intro invocation timeout site output ran
  exact ⟨site.files, site.directory, scenario, none, (Except.ok.inj ran).symm⟩

namespace StandIn

section

variable {config : Config} (bare : config.programArgs.value = [])
  (plain : config.statusFile.value.toList.head? ≠ some '-')
include bare plain

/-- Asked for a suggestion, the stand-in succeeds with its line or not at all. -/
theorem output_of_success {tree : FileTree} {directory : Location} {scenario : Scenario}
    {log : Option Path} {symbol : String}
    (succeeded :
      (run tree directory scenario log
        (config.invocation (.suggest symbol)).arguments).2.exitCode = some 0) :
    (run tree directory scenario log (config.invocation (.suggest symbol)).arguments).2 =
      output (suggestionLine symbol) "" 0 := by
  have told := Arguments.read_invocation bare plain (.suggest symbol)
  have answered (complete : (answer scenario ["suggest", symbol, "--json"]).exitCode = some 0) :
      answer scenario ["suggest", symbol, "--json"] = output (suggestionLine symbol) "" 0 := by
    by_cases crash : scenario = .crash
    · rw [answer, if_pos crash] at complete
      cases complete
    · exact answer_suggest crash symbol ["--json"]
  unfold run at succeeded ⊢
  simp only [told, Request.arguments] at succeeded ⊢
  cases log with
  | none => exact answered succeeded
  | some path =>
    simp only at succeeded ⊢
    split at succeeded
    · cases succeeded
    · exact answered succeeded

/-- What comes of asking the stand-in for a suggestion, if it is complete. -/
theorem result_of_complete {result : Except Execution.Failure Execution.Output} {command : Command}
    (standIn : ∀ output, result = .ok output → ∃ tree directory scenario log, output =
      (run tree directory scenario log
        (config.invocation (.suggest command.argument)).arguments).2)
    (complete : Exchange.failure? ⟨command, .suggest,
      ProgramClient.translate (.suggest command.argument) result⟩ = none) :
    ProgramClient.translate (.suggest command.argument) result =
      .ok ⟨suggestionLine command.argument, "", some 0⟩ := by
  cases result with
  | error failure => cases failure <;> cases complete
  | ok said =>
    obtain ⟨tree, directory, scenario, log, said_eq⟩ := standIn said rfl
    have succeeded : said.exitCode = some 0 := by
      have accepted := (Exchange.failure?_reply command .suggest _).symm.trans complete
      obtain ⟨status, exited, zero⟩ := Reply.error?_eq_none_iff.mp accepted
      exact exited.trans (congrArg some (of_decide_eq_true zero))
    have line : said = output (suggestionLine command.argument) "" 0 := by
      rw [said_eq] at succeeded ⊢
      exact output_of_success bare plain succeeded
    rw [line, ProgramClient.translate]
    simp only [output, Utf8.decodeLossy_encode]

/-- In a session over the stand-in, every complete suggestion came with the stand-in's line. -/
theorem exchange_of_suggested {launcher : Launcher ρ} (standIn : launcher.IsStandIn)
    {site : Site ρ} {bytes : Bytes} {deed : Deed} {symbol : String}
    (member : deed ∈ (Client.program launcher config).account site bytes)
    (suggested : deed.suggested? = some symbol) :
    ∃ command : Command,
      deed = .exchange (exchange command "") ∧ command.argument = symbol := by
  cases deed with
  | line _ _ => cases suggested
  | finish => cases suggested
  | exchange exchanged =>
    obtain ⟨before, after, split⟩ := List.append_of_mem member
    obtain ⟨suggesting, complete, named⟩ := Exchange.of_suggested? suggested
    have replied := Client.result_account split
    obtain ⟨command, op, result⟩ := exchanged
    subst suggesting
    have launched : result = ProgramClient.translate (.suggest command.argument)
        (ProgramClient.launch launcher config (.suggest command.argument) _).2 :=
      replied.trans (ProgramClient.invoke_reply launcher config _ _)
    subst launched
    have result_eq :=
      result_of_complete bare plain (fun said ran => standIn _ _ _ said ran) complete
    exact ⟨command, congrArg (fun r => Deed.exchange ⟨command, .suggest, r⟩) result_eq, named⟩

/-- Each verdict of a session over the stand-in is that one suggestion was received, and there is
one for each complete suggestion. -/
theorem verdicts_standIn {launcher : Launcher ρ} (standIn : launcher.IsStandIn)
    (clock : Nat → String) (site : Site ρ) (bytes : Bytes) :
    let client := Client.program launcher config
    ((serve client clock (.ofBytes bytes)).run (.healthy site)).trace.verdicts =
      ((client.account site bytes).filterMap Deed.suggested?).map
        fun symbol => suggestionsReceived symbol 1 := by
  intro client
  rw [verdicts_serve (Client.program_impartial launcher config), List.map_filterMap,
    List.filterMap_eq_flatMap_toList]
  refine List.flatMap_congr fun deed member => ?_
  cases suggested : deed.suggested? with
  | none => exact Deed.verdicts_of_suggested?_eq_none suggested
  | some symbol =>
    obtain ⟨command, rfl, rfl⟩ := exchange_of_suggested bare plain standIn member suggested
    exact verdicts_exchange command ""

end

/-- Whatever symbol the stand-in is asked about, it answers with one line, which is an array of one
object that names the symbol.  When that line comes with status zero for a command line that asks
for nothing but a suggestion about the symbol, it is passed on as it is and marked, and the session
logs that one suggestion was received; that what came is no JSON is never logged.  So it is in whole
sessions over the stand-in: their verdicts are that one suggestion was received, once for each
complete suggestion. -/
theorem suggestions_understood :
    (∀ symbol : String,
      let line := suggestionLine symbol
      (∀ scenario rest, scenario ≠ .crash →
        answer scenario ("suggest" :: symbol :: rest) = output line "" 0) ∧
      Input.OneLine (Utf8.encode line) ∧
      ∃ text fields, line = text ++ "\n" ∧
        Json.parse? text.toList = some (.array [.object fields]) ∧
        (Json.object fields).field? "func_name".toList = some (.string symbol.toList)) ∧
    (∀ (σ : Type) (client : Client σ) (state : σ) (time line symbol stderr : String),
      (Command.parse line).argument = symbol →
      (Command.parse line).opcodes = [.suggest] →
      let reply : Reply := ⟨suggestionLine symbol, stderr, some 0⟩
      (client.invoke (.suggest symbol) state).reply = .ok reply →
      let outcome := (answerLine client time line).run (.healthy state)
      outcome.result = .ok () ∧
        outcome.trace.requests = [.suggest symbol] ∧
        outcome.trace.bytesOn .out = Utf8.encode (suggestionLine symbol ++ "# done!\n") ∧
        outcome.trace.records = client.ownRecords state (.suggest symbol) ++
          [callCompleted (.suggest symbol) reply, suggestionsReceived symbol 1] ∧
        (client.Impartial → outcome.trace.verdicts = [suggestionsReceived symbol 1])) ∧
    ∀ (ρ : Type) (launcher : Launcher ρ) (config : Config) (clock : Nat → String) (site : Site ρ)
      (bytes : Bytes), launcher.IsStandIn → config.programArgs.value = [] →
      config.statusFile.value.toList.head? ≠ some '-' →
      let client := Client.program launcher config
      let session := (serve client clock (.ofBytes bytes)).run (.healthy site)
      let account := client.account site bytes
      session.trace.verdicts =
          (account.filterMap Deed.suggested?).map (fun symbol => suggestionsReceived symbol 1) ∧
        ∀ deed ∈ account, ∀ symbol, deed.suggested? = some symbol →
          deed.stdout = suggestionLine symbol ++ "# done!\n" := by
  refine ⟨fun symbol => ?_, ?_, ?_⟩
  · exact ⟨fun _ rest noCrash => answer_suggest noCrash symbol rest, oneLine_suggestionLine symbol,
      suggestionText symbol, fieldsFor symbol, suggestionLine_eq_append symbol,
      parse?_suggestionText symbol, rfl⟩
  · rintro σ client state time line symbol stderr rfl only reply answered outcome
    obtain ⟨succeeded, asked, passed, logged⟩ :=
      answerLine_suggestionLine client state time only answered
    refine ⟨succeeded, asked, passed, logged, fun impartial => ?_⟩
    rw [Trace.verdicts, logged, List.filter_append, impartial]
    rfl
  · intro ρ launcher config clock site bytes standIn bare plain client session account
    refine ⟨verdicts_standIn bare plain standIn clock site bytes, ?_⟩
    intro deed member symbol suggested
    obtain ⟨command, rfl, rfl⟩ := exchange_of_suggested bare plain standIn member suggested
    exact answer_exchange command ""

/-- A symbol with a quote, a backslash, a control character and one that takes four bytes. -/
theorem suggestions_understood_of_escapes :
    let symbol := "q\"\\\x01😀"
    let line := symbol ++ "::suggest\n"
    let time := "09:00:00.000000"
    let replies : List (Except DaemonError Reply) := [.ok ⟨suggestionLine symbol, "", some 0⟩]
    let outcome := (answerLine Client.scripted time line).run (.healthy replies)
    let client : Client (Site Unit) := Client.program (.standIn .clean) Config.default
    (Command.parse line).argument = symbol ∧
      (Command.parse line).opcodes = [.suggest] ∧
      answer .clean ["suggest", symbol, "--json"] = output (suggestionLine symbol) "" 0 ∧
      outcome.trace.bytesOn .out = Utf8.encode (suggestionLine symbol ++ "# done!\n") ∧
      outcome.trace.verdicts = [suggestionsReceived symbol 1] ∧
      ((serve client (fun _ => time) (.ofBytes (Utf8.encode line))).run
        (.healthy ⟨.empty, [], ()⟩)).trace.verdicts = [suggestionsReceived symbol 1] := by
  intro symbol line time replies outcome client
  obtain ⟨said, understood, judged⟩ := suggestions_understood
  have named : (Command.parse line).argument = symbol := by decide +kernel
  have only : (Command.parse line).opcodes = [.suggest] := by decide +kernel
  have impartial : Client.scripted.Impartial := by
    rintro request (_ | ⟨reply, rest⟩) <;> rfl
  obtain ⟨-, -, passed, -, verdicts⟩ :=
    understood _ Client.scripted replies time line symbol "" named only rfl
  have bare : Config.default.programArgs.value = [] := rfl
  have plain : Config.default.statusFile.value.toList.head? ≠ some '-' := by decide +kernel
  obtain ⟨counted, -⟩ := judged _ (.standIn .clean) Config.default (fun _ => time)
    ⟨.empty, [], ()⟩ (Utf8.encode line) (Launcher.isStandIn_standIn .clean) bare plain
  have suggested : (client.account ⟨.empty, [], ()⟩ (Utf8.encode line)).filterMap Deed.suggested? =
      [symbol] := by
    decide +kernel
  exact ⟨named, only, (said symbol).1 .clean ["--json"] (by decide), passed, verdicts impartial,
    counted.trans (congrArg _ suggested)⟩

end StandIn

end EditorBridge
