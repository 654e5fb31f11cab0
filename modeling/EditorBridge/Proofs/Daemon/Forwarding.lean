import EditorBridge.Proofs.Daemon.Program
import EditorBridge.Proofs.Session.StdoutLines
import EditorBridge.Proofs.Text.Decoding

/-!
# What the client program writes

The output of the client program is decoded before the session passes it on, and what the session
passes on is encoded again.  So the report of a check, and what the program writes to its stderr,
reach the streams as they are exactly if they are texts in UTF-8.
-/
namespace EditorBridge

open EditorBridge.Action EditorBridge.Session

variable {ρ σ : Type}

namespace Deed

def noted (clock : Nat → String) (deeds : List Deed) : Bytes :=
  deeds.flatMap fun deed => Utf8.encode (deed.stderr clock)

end Deed

namespace Client

/-- An exchange is what the client makes of its request after the requests before it. -/
theorem result_carryOut {client : Client σ} {state : σ} {errands : List Errand}
    {before after : List Deed} {exchange : Exchange}
    (split : client.carryOut state errands = before ++ .exchange exchange :: after) :
    exchange.result = (client.invoke exchange.request
      (client.stateAfter state (before.filterMap Deed.request?))).reply := by
  induction errands generalizing state before with
  | nil => simp [carryOut] at split
  | cons errand rest ih =>
    cases before with
    | nil =>
      cases errand with
      | request command op =>
        obtain ⟨rfl, _⟩ := Deed.exchange.inj (List.cons.inj split).1
        rfl
      | _ => cases (List.cons.inj split).1
    | cons deed more =>
      -- Only a request moves the client on, and it stands in the list of deeds as one.
      cases errand <;>
      · obtain ⟨rfl, later⟩ := List.cons.inj split
        have told : client.carryOut _ rest = more ++ .exchange exchange :: after := later
        have made := ih told
        exact made

theorem result_account {client : Client σ} {state : σ} {bytes : Bytes} {before after : List Deed}
    {exchange : Exchange}
    (split : client.account state bytes = before ++ .exchange exchange :: after) :
    exchange.result = (client.invoke exchange.request
      (client.stateAfter state (before.filterMap Deed.request?))).reply := by
  obtain ⟨more, whole⟩ := Deed.upToFatal_isPrefix (client.conversation state bytes)
  have split' : client.carryOut state (Errand.ofPieces 0 (Input.pieces bytes)) =
      before ++ .exchange exchange :: (after ++ more) := by
    have joined : client.account state bytes ++ more = client.conversation state bytes := whole
    rw [split] at joined
    simpa [conversation] using joined.symm
  exact result_carryOut split'

end Client

/-- A check is complete with either of the statuses of a finished check. -/
theorem Exchange.failure?_eq_none {exchange : Exchange} {reply : Reply}
    (checking : exchange.opcode = .check) (replied : exchange.result = .ok reply)
    (completed : reply.exitCode = some 0 ∨ reply.exitCode = some 1) : exchange.failure? = none := by
  rcases completed with clean | findings
  · simp [failure?, replied, clean, checking, completing]
  · simp [failure?, replied, findings, checking, completing]

namespace Session

/-- As long as no stream fails, a session does what its account says. -/
theorem bytesOn_of_faultless {client : Client σ} {clock : Nat → String} {input : Input}
    {world : World σ} (faultless : ((serve client clock input).run world).trace.faults = []) :
    let session := (serve client clock input).run world
    let account := client.account world.client input.bytes
    session.trace.bytesOn .out = Deed.written account ∧
      session.trace.bytesOn .err = Deed.noted clock account := by
  intro session account
  have tracks : session.Tracks
      ((serve client clock (.ofBytes input.bytes)).run (.healthy world.client)) :=
    servePieces_tracks client clock input.unreadable 0 false (Input.pieces input.bytes) world
  cases tracks with
  | broken _ fault before after trace_eq _ _ _ _ =>
    have failed : session.trace.faults ≠ [] := by simp [trace_eq, Trace.faults, Event.fault?]
    exact absurd faultless failed
  | whole _ signs_eq _ _ _ =>
    have shown : session.trace.signs = account.flatMap (Deed.signs clock) :=
      signs_eq.trans (serve_accords client clock world.client input.bytes).signs_eq
    constructor
    · rw [Trace.bytesOn_eq, shown, List.filterMap_flatMap]
      simp only [Deed.bytesOn_out_signs, Deed.written]
    · rw [Trace.bytesOn_eq, shown, List.filterMap_flatMap]
      simp only [Deed.bytesOn_err_signs, Deed.noted]

/-- What the program writes for a complete check reaches the streams decoded and encoded again, so
it does as it was written exactly if it is a text in UTF-8. -/
theorem report_forwarded_iff (launcher : Launcher ρ) (config : Config) (clock : Nat → String)
    (input : Input) (world : World (Site ρ)) (before after : List Deed) (exchange : Exchange)
    (output : Execution.Output)
    (split : (Client.program launcher config).account world.client input.bytes =
      before ++ .exchange exchange :: after)
    (checking : exchange.opcode = .check) (alone : exchange.command.has .inspect = false)
    (ran : (ProgramClient.launch launcher config .check
      ((Client.program launcher config).stateAfter world.client
        (before.filterMap Deed.request?))).2 = .ok output)
    (completed : output.exitCode = some 0 ∨ output.exitCode = some 1)
    (faultless : ((serve (Client.program launcher config) clock input).run world).trace.faults =
      []) :
    let session := (serve (Client.program launcher config) clock input).run world
    let report := Utf8.encode (Utf8.decodeLossy output.stdout)
    let diagnostics := Utf8.encode (Utf8.decodeLossy output.stderr)
    session.trace.bytesOn .out =
        Deed.written before ++ (report ++ Utf8.encode "# done!\n") ++ Deed.written after ∧
      session.trace.bytesOn .err =
        Deed.noted clock before ++ diagnostics ++ Deed.noted clock after ∧
      (report = output.stdout ↔ ∃ text, output.stdout = Utf8.encode text) ∧
      (diagnostics = output.stderr ↔ ∃ text, output.stderr = Utf8.encode text) := by
  intro session report diagnostics
  obtain ⟨written, noted⟩ := bytesOn_of_faultless faultless
  have replied : exchange.result =
      .ok ⟨Utf8.decodeLossy output.stdout, Utf8.decodeLossy output.stderr, output.exitCode⟩ := by
    have answered := Client.result_account split
    have asked : exchange.request = .check := by rw [Exchange.request, checking, Request.about]
    have reply := ProgramClient.invoke_reply launcher config .check
      ((Client.program launcher config).stateAfter world.client (before.filterMap Deed.request?))
    rw [ran] at reply
    rw [asked] at answered
    exact answered.trans reply
  have complete : exchange.failure? = none := Exchange.failure?_eq_none checking replied completed
  refine ⟨?_, ?_, Utf8.encode_decodeLossy_eq_iff, Utf8.encode_decodeLossy_eq_iff⟩
  · have marked : exchange.marked = true := by simp [Exchange.marked, checking, complete, alone]
    have answered : Utf8.encode exchange.answer = report ++ Utf8.encode "# done!\n" := by
      rw [Exchange.answer_of_marked marked, Exchange.report, replied, Utf8.encode_append]
      rfl
    rw [written, split, Deed.written_append, Deed.written_cons, Deed.stdout, answered]
    simp only [List.append_assoc]
  · have remarked : exchange.diagnostics ++ exchange.remarks = Utf8.decodeLossy output.stderr := by
      simp [Exchange.diagnostics, Exchange.remarks, replied, checking, alone]
    rw [noted, split]
    simp only [Deed.noted, List.flatMap_append, List.flatMap_cons, Deed.stderr, remarked,
      diagnostics, List.append_assoc]

/-- A report and diagnostics in UTF-8, on streams that have just room for the session. -/
theorem report_in_utf8_forwarded :
    let output : Execution.Output := ⟨[0xC3, 0xA9, 0x0A], [0xE2, 0x82, 0xAC], some 1⟩
    let site : Site (List (Except Execution.Failure Execution.Output)) := ⟨.empty, [], [.ok output]⟩
    let client := Client.program Launcher.scripted Config.default
    let world : World _ := ⟨⟨some 11, none⟩, ⟨some 33, none⟩, site⟩
    let session :=
      (serve client (fun _ => "09:00:00.000000") (.ofBytes (Utf8.encode "run\n"))).run world
    let before : List Deed := [.line 0 ⟨"run", []⟩]
    let check : Exchange := ⟨⟨"run", []⟩, .check, .ok ⟨"é\n", "€", some 1⟩⟩
    client.account site (Utf8.encode "run\n") = before ++ .exchange check :: [.finish] ∧
      (ProgramClient.launch Launcher.scripted Config.default .check
        (client.stateAfter site (before.filterMap Deed.request?))).2 = .ok output ∧
      session.trace.faults = [] ∧
      session.trace.bytesOn .out =
        Deed.written before ++ (output.stdout ++ Utf8.encode "# done!\n")
          ++ Deed.written [.finish] := by
  intro output site client world session before check
  have split : client.account site (Utf8.encode "run\n") =
      before ++ .exchange check :: [.finish] := by cbv
  have ran : (ProgramClient.launch Launcher.scripted Config.default .check
      (client.stateAfter site (before.filterMap Deed.request?))).2 = .ok output := by cbv
  have faultless : session.trace.faults = [] := by decide +kernel
  have forwarded := report_forwarded_iff Launcher.scripted Config.default
    (fun _ => "09:00:00.000000") (.ofBytes (Utf8.encode "run\n")) world before [.finish] check
    output split rfl (by decide +kernel) ran (.inr rfl) faultless
  have same := forwarded.2.2.1.mpr ⟨"é\n", by decide +kernel⟩
  exact ⟨split, ran, faultless, same ▸ forwarded.1⟩

/-- A report that is no text: the byte that is part of no character is written as three others. -/
theorem report_bytes_replaced :
    let output : Execution.Output := ⟨[0xFF, 0x0A], [], some 0⟩
    let site : Site (List (Except Execution.Failure Execution.Output)) := ⟨.empty, [], [.ok output]⟩
    let session :=
      (serve (Client.program Launcher.scripted Config.default) (fun _ => "09:00:00.000000")
        (.ofBytes (Utf8.encode "run\n"))).run (.healthy site)
    session.trace.faults = [] ∧ session.trace.requests = [.check] ∧
      session.trace.bytesOn .out = [0xEF, 0xBF, 0xBD, 0x0A] ++ Utf8.encode "# done!\n" ∧
      session.trace.bytesOn .out ≠ output.stdout ++ Utf8.encode "# done!\n" := by
  decide +kernel

end Session

end EditorBridge
