import EditorBridge.Proofs.Session.Transcript
import Mathlib

/-!
# Stdout line by line

An editor reads stdout line by line.  Each exchange of a session starts on a line of its own,
because whatever a session goes on after has put nothing on stdout or ended its last line
(`Deed.terminated_written`).  What the client has written is passed on as it is, though: a marker
line stands apart exactly if the report before it leaves no line open, and an inspection takes one
line exactly if its result has no line break.
-/
namespace EditorBridge

open EditorBridge.Action EditorBridge.Session

variable {σ : Type}

theorem Utf8.count_lineFeed_encode (s : String) :
    (encode s).count Input.lineFeed = s.toList.count '\n' :=
  count_encode (a := '\n') (by decide) s

/-- A text leaves a line open exactly if its bytes do. -/
theorem Utf8.terminated_encode_iff {s : String} :
    Text.Terminated Input.lineFeed (encode s) ↔ Text.Terminated '\n' s.toList :=
  or_congr encode_eq_nil_iff (getLast?_encode_iff (a := '\n') (by decide) s)

theorem Utf8.terminated_encode_line (s : String) :
    Text.Terminated Input.lineFeed (encode (s ++ "\n")) :=
  terminated_encode_iff.mpr (.inr (by simp))

namespace Exchange

def markerLine : String := "# done!\n"

/-- Whether the exchange ends with the marker line: it completes a suggestion, or a check on whose
line no inspection follows. -/
def marked (exchange : Exchange) : Bool :=
  match exchange.opcode with
  | .check => !exchange.command.has .inspect && exchange.failure?.isNone
  | .suggest => exchange.failure?.isNone
  | .inspect => false

theorem answer_of_marked {exchange : Exchange} (h : exchange.marked = true) :
    exchange.answer = exchange.report ++ markerLine := by
  unfold marked at h
  unfold answer marker
  cases op : exchange.opcode <;> simp_all [markerLine]

/-- An exchange that does not end the session leaves no line open. -/
theorem answer_of_survived {exchange : Exchange} (h : exchange.fatal? = none) :
    exchange.answer = "" ∨ ∃ text, exchange.answer = text ++ "\n" := by
  unfold fatal? at h
  have completed : exchange.report ++ markerLine = exchange.report ++ "# done!" ++ "\n" := by
    rw [String.append_assoc]
    rfl
  cases op : exchange.opcode with
  | check =>
    by_cases inspecting : exchange.command.has .inspect = true
    · exact .inl (by simp [answer, op, inspecting])
    · have marked : exchange.marked = true := by simp_all [marked]
      exact .inr ⟨_, (answer_of_marked marked).trans completed⟩
  | suggest =>
    have marked : exchange.marked = true := by simp_all [marked]
    exact .inr ⟨_, (answer_of_marked marked).trans completed⟩
  | inspect =>
    by_cases succeeded : exchange.failure? = none
    · exact .inr ⟨_, by simp only [answer, op, succeeded, if_true]; rfl⟩
    · exact .inr ⟨"", by simp [answer, op, succeeded]⟩

end Exchange

namespace Deed

def written (deeds : List Deed) : Bytes := deeds.flatMap fun deed => Utf8.encode deed.stdout

@[simp] theorem written_append (a b : List Deed) : written (a ++ b) = written a ++ written b := by
  simp [written]

@[simp] theorem written_cons (deed : Deed) (rest : List Deed) :
    written (deed :: rest) = Utf8.encode deed.stdout ++ written rest := rfl

theorem terminated_stdout {deed : Deed} (h : deed.isFatal = false) :
    Text.Terminated Input.lineFeed (Utf8.encode deed.stdout) := by
  cases deed with
  | line _ _ => exact .inl rfl
  | finish => exact .inl rfl
  | exchange e =>
    have survived : e.fatal? = none := by simpa [isFatal, fatal?] using h
    rcases Exchange.answer_of_survived survived with empty | ⟨text, line⟩
    · exact .inl (by simp [stdout, empty])
    · exact (congrArg Utf8.encode line) ▸ Utf8.terminated_encode_line text

/-- As long as the session goes on, the next exchange starts a line. -/
theorem terminated_written {deeds : List Deed} (h : ∀ deed ∈ deeds, deed.isFatal = false) :
    Text.Terminated Input.lineFeed (written deeds) := by
  induction deeds with
  | nil => exact .inl rfl
  | cons deed rest ih =>
    have first := terminated_stdout (h deed (by simp))
    rw [written_cons, Text.terminated_append_iff first]
    exact ih fun later member => h later (List.mem_cons_of_mem _ member)

/-- Nothing before a deed of an account ends the session. -/
theorem survived_before {deeds before after : List Deed} {deed : Deed}
    (split : upToFatal deeds = before ++ deed :: after) : ∀ d ∈ before, d.isFatal = false := by
  induction deeds generalizing before with
  | nil => simp at split
  | cons first rest ih =>
    rw [upToFatal_cons] at split
    cases before with
    | nil => simp
    | cons d more =>
      obtain ⟨rfl, split⟩ := List.cons.inj split
      cases fatal : first.isFatal with
      | true => simp [fatal] at split
      | false =>
        have ih := ih (by simpa [fatal] using split)
        simpa [fatal] using ih

end Deed

namespace Client

/-- The stdout of a session is that of its account. -/
theorem bytesOn_out_serve (client : Client σ) (clock : Nat → String) (state : σ) (bytes : Bytes) :
    ((serve client clock (.ofBytes bytes)).run (.healthy state)).trace.bytesOn .out =
      Deed.written (client.account state bytes) := by
  rw [Trace.bytesOn_eq, (serve_accords client clock state bytes).signs_eq, List.filterMap_flatMap]
  simp only [Deed.bytesOn_out_signs, Deed.written, account]

end Client

namespace Session

/-- A marker line comes right after its report.  It stands on a line of its own exactly if the
report is empty or ends in a line feed, whatever was on stdout before; an editor that reads line by
line then sees the marker as one line. -/
theorem marker_apart_iff (client : Client σ) (clock : Nat → String) (state : σ) (bytes : Bytes)
    (before after : List Deed) (exchange : Exchange)
    (split : client.account state bytes = before ++ .exchange exchange :: after)
    (marked : exchange.marked = true) :
    let stdout := ((serve client clock (.ofBytes bytes)).run (.healthy state)).trace.bytesOn .out
    let ahead := Deed.written before ++ Utf8.encode exchange.report
    let marker := Utf8.encode Exchange.markerLine
    stdout = ahead ++ marker ++ Deed.written after ∧
      (Text.Terminated Input.lineFeed ahead ↔ Text.Terminated '\n' exchange.report.toList) ∧
      (Text.Terminated Input.lineFeed ahead →
        Input.pieces stdout =
          Input.pieces ahead ++ marker :: Input.pieces (Deed.written after)) := by
  intro stdout ahead marker
  have whole : stdout = ahead ++ marker ++ Deed.written after := by
    have answered : (Deed.exchange exchange).stdout = exchange.report ++ Exchange.markerLine :=
      Exchange.answer_of_marked marked
    unfold stdout
    rw [Client.bytesOn_out_serve, split]
    simp [ahead, marker, answered]
  have begun : Text.Terminated Input.lineFeed (Deed.written before) :=
    Deed.terminated_written (Deed.survived_before split)
  refine ⟨whole, ?_, fun apart => ?_⟩
  · exact (Text.terminated_append_iff begun _).trans Utf8.terminated_encode_iff
  · have ended : Text.Terminated Input.lineFeed marker := Utf8.terminated_encode_line "# done!"
    have alone : Input.pieces marker = [marker] := by decide +kernel
    rw [whole, List.append_assoc]
    unfold Input.pieces at alone ⊢
    rw [Text.cutAfter_append apart, Text.cutAfter_append ended, alone]
    rfl

/-- The marker of a suggestion, after the marker of a check. -/
theorem marker_apart_after_check :
    let replies : List (Except DaemonError Reply) :=
      [.ok ⟨"ok\n", "", some 1⟩, .ok ⟨"[]\n", "", some 0⟩]
    let input := Utf8.encode "run\nf::suggest\n"
    let check : Exchange := ⟨⟨"run", []⟩, .check, .ok ⟨"ok\n", "", some 1⟩⟩
    let suggestion : Exchange := ⟨⟨"f", ["suggest"]⟩, .suggest, .ok ⟨"[]\n", "", some 0⟩⟩
    let before : List Deed := [.line 0 check.command, .exchange check, .line 1 suggestion.command]
    let session :=
      (serve Client.scripted (fun _ => "09:00:00.000000") (.ofBytes input)).run (.healthy replies)
    Client.scripted.account replies input = before ++ .exchange suggestion :: [.finish] ∧
      suggestion.marked = true ∧
      Input.pieces (session.trace.bytesOn .out) =
        Input.pieces (Deed.written before ++ Utf8.encode "[]\n")
          ++ Utf8.encode "# done!\n" :: Input.pieces (Deed.written [.finish]) := by
  refine (fun split marked => ⟨split, marked, ?_⟩) (by cbv) (by cbv)
  have apart := marker_apart_iff Client.scripted (fun _ => "09:00:00.000000") _ _ _ _ _ split marked
  exact apart.2.2 (apart.2.1.mpr (.inr (by cbv)))

/-- A report that leaves a line open takes the marker into that line. -/
theorem marker_in_open_line :
    let replies : List (Except DaemonError Reply) := [.ok ⟨"ok", "", some 0⟩]
    let input := Utf8.encode "run\n"
    let check : Exchange := ⟨⟨"run", []⟩, .check, .ok ⟨"ok", "", some 0⟩⟩
    let before : List Deed := [.line 0 check.command]
    let session :=
      (serve Client.scripted (fun _ => "09:00:00.000000") (.ofBytes input)).run (.healthy replies)
    Client.scripted.account replies input = before ++ .exchange check :: [.finish] ∧
      check.marked = true ∧
      session.trace.bytesOn .out = Utf8.encode "ok# done!\n" ∧
      ¬ Text.Terminated Input.lineFeed (Deed.written before ++ Utf8.encode check.report) ∧
      Utf8.encode Exchange.markerLine ∉ Input.pieces (session.trace.bytesOn .out) := by
  refine ⟨by cbv, by cbv, by decide +kernel, ?_, ?_⟩
  · decide +kernel
  · decide +kernel

end Session

/-- Whether bytes are one line: their last byte is a line feed, and no other is. -/
def Input.OneLine (bytes : Bytes) : Prop :=
  bytes.count lineFeed = 1 ∧ bytes.getLast? = some lineFeed

/-- How often the result of a successful inspection breaks the line. -/
def Exchange.breaks (exchange : Exchange) : Nat :=
  if exchange.failure? = none then (Text.trimmed exchange.report).toList.count '\n' else 0

/-- The line breaks that a deed puts on stdout beyond the ends of lines. -/
def Deed.breaks : Deed → Nat
  | .exchange e => e.breaks
  | _ => 0

/-- The answer to an inspection ends one line, after the lines that its result breaks off. -/
theorem Exchange.answer_inspect (command : Command) (result : Except DaemonError Reply) :
    let exchange : Exchange := ⟨command, .inspect, result⟩
    (Utf8.encode exchange.answer).count Input.lineFeed = exchange.breaks + 1 ∧
      (Utf8.encode exchange.answer).getLast? = some Input.lineFeed := by
  intro exchange
  have answered : exchange.answer =
      (if exchange.failure? = none then Text.trimmed exchange.report else "") ++ "\n" := by
    by_cases succeeded : exchange.failure? = none <;> simp [answer, exchange, succeeded]
  have ended : (Utf8.encode exchange.answer).getLast? = some Input.lineFeed := by
    rw [answered]
    exact (Utf8.getLast?_encode_iff (a := '\n') (by decide) _).mpr (by simp)
  refine ⟨?_, ended⟩
  rw [answered, Utf8.count_lineFeed_encode, String.toList_append, List.count_append]
  by_cases succeeded : exchange.failure? = none <;> simp [breaks, succeeded]

/-- Inspections never end a session, and each line of input is answered by the end of one line. -/
theorem Client.inspections_carryOut (client : Client σ) (handled : Nat) {pieces : List Bytes}
    (inspecting : ∀ piece ∈ pieces, (Command.parse (Utf8.decodeLossy piece)).opcodes = [.inspect])
    (state : σ) :
    let deeds := client.carryOut state (Errand.ofPieces handled pieces)
    (∀ deed ∈ deeds, deed.isFatal = false) ∧
      (Deed.written deeds).count Input.lineFeed = pieces.length + (deeds.map Deed.breaks).sum := by
  induction pieces generalizing handled state with
  | nil =>
    have told : client.carryOut state (Errand.ofPieces handled []) = [.finish] := rfl
    rw [told]
    decide
  | cons piece rest ih =>
    let command := Command.parse (Utf8.decodeLossy piece)
    let answer := client.invoke (.inspect command.argument) state
    let exchange : Exchange := ⟨command, .inspect, answer.reply⟩
    have only : [Opcode.check, .suggest, .inspect].filter command.has = [.inspect] :=
      inspecting piece (by simp)
    have told : client.carryOut state (Errand.ofPieces handled (piece :: rest)) =
        .line handled command :: .exchange exchange
          :: client.carryOut answer.state (Errand.ofPieces (handled + 1) rest) := by
      rw [Errand.ofPieces_cons, Errand.ofPiece]
      simp only [command, only]
      rfl
    obtain ⟨survived, counted⟩ :=
      ih (handled + 1) (fun later member => inspecting later (List.mem_cons_of_mem _ member))
        answer.state
    have ended : (Utf8.encode exchange.answer).count Input.lineFeed = exchange.breaks + 1 :=
      (Exchange.answer_inspect command answer.reply).1
    rw [told]
    constructor
    · simpa [Deed.isFatal, Deed.fatal?, exchange, Exchange.fatal?] using survived
    · simp only [Deed.written_cons, Deed.stdout, List.count_append, counted, ended, List.map_cons,
        List.sum_cons, Deed.breaks, List.length_cons, Utf8.encode_empty, List.count_nil]
      omega

namespace Session

/-- An inspection never ends the session, whatever the client does, and what it puts on stdout ends
a line.  It is one line exactly if the result of a successful inspection has no line break.  So a
session of inspections alone puts one line on stdout for each line of input, and one more for each
such line break. -/
theorem inspection_one_line_iff (client : Client σ) (clock : Nat → String) (state : σ) :
    (∀ command : Command,
      let reply := (client.invoke (.inspect command.argument) state).reply
      let step := (answerOpcode client command .inspect).run (.healthy state)
      let added := step.trace.bytesOn .out
      step.result = .ok () ∧ added.getLast? = some Input.lineFeed ∧
        (Input.OneLine added ↔ (⟨command, .inspect, reply⟩ : Exchange).breaks = 0)) ∧
      ∀ bytes : Bytes,
        (∀ piece ∈ Input.pieces bytes,
          (Command.parse (Utf8.decodeLossy piece)).opcodes = [.inspect]) →
        let session := (serve client clock (.ofBytes bytes)).run (.healthy state)
        session.result = .ok () ∧
          (Input.pieces (session.trace.bytesOn .out)).length =
            (Input.pieces bytes).length + ((client.account state bytes).map Deed.breaks).sum := by
  constructor
  · intro command reply step added
    let exchange : Exchange := ⟨command, .inspect, reply⟩
    have yields := answerOpcode_yields client command state .inspect
    have added_eq : added = Utf8.encode exchange.answer := by
      unfold added step
      rw [Trace.bytesOn_eq, yields.signs_eq]
      exact Deed.bytesOn_out_signs clock (.exchange exchange)
    obtain ⟨counted, ended⟩ := Exchange.answer_inspect command reply
    refine ⟨yields.result_eq, added_eq ▸ ended, ?_⟩
    rw [added_eq, Input.OneLine, counted]
    exact ⟨fun one => Nat.succ.inj one.1, fun none => ⟨congrArg (· + 1) none, ended⟩⟩
  · intro bytes inspecting session
    obtain ⟨survived, counted⟩ := client.inspections_carryOut 0 inspecting state
    have alive : (client.conversation state bytes).findSome? Deed.fatal? = none :=
      List.findSome?_eq_none_iff.mpr fun deed member => by
        simpa [Deed.isFatal] using survived deed member
    have whole : client.account state bytes = client.conversation state bytes :=
      Deed.upToFatal_of_none alive
    have ended : session.result =
        verdict ((client.conversation state bytes).findSome? Deed.fatal?) :=
      (serve_accords client clock state bytes).result_eq
    refine ⟨ended.trans (congrArg verdict alive), ?_⟩
    unfold session
    rw [Client.bytesOn_out_serve, whole]
    exact (Text.length_cutAfter (Deed.terminated_written survived)).trans counted

/-- A result of two lines takes two lines on stdout, although one was asked for. -/
theorem inspection_two_lines :
    let replies : List (Except DaemonError Reply) := [.ok ⟨"a\nb\n", "", some 0⟩]
    let input := Utf8.encode "x::inspect\n"
    let session :=
      (serve Client.scripted (fun _ => "09:00:00.000000") (.ofBytes input)).run (.healthy replies)
    (∀ piece ∈ Input.pieces input,
        (Command.parse (Utf8.decodeLossy piece)).opcodes = [.inspect]) ∧
      (Input.pieces input).length = 1 ∧
      session.trace.bytesOn .out = Utf8.encode "a\nb\n" ∧
      ¬ Input.OneLine (session.trace.bytesOn .out) ∧
      (Input.pieces (session.trace.bytesOn .out)).length = 2 := by
  refine ⟨by decide +kernel, by decide +kernel, by decide +kernel, ?_, by decide +kernel⟩
  unfold Input.OneLine
  decide +kernel

end Session

end EditorBridge
