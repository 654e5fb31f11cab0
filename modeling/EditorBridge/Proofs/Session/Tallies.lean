import EditorBridge.Daemon.Client
import EditorBridge.Proofs.Finding.Lines
import EditorBridge.Proofs.Session.Scripts

/-!
# Tallies of checks

After each check that returns, the session logs how many findings of each severity the report has,
whatever the exit status and whichever stream the report goes to.  The log and the requests are
compared like a ledger: a check owes a tally, and the record pays it (`Outcome.Tallies`).  Nothing
is left to pay when a session ends, unless a stream has failed in the meantime (`serve_tallies`).
-/
namespace EditorBridge

open EditorBridge.Action EditorBridge.Session

variable {σ ρ α β : Type}

/-- The record that tells how many findings of each severity there are. -/
def Finding.tally (findings : List Finding) : Logging.Record :=
  let number (severity : Severity) : Nat :=
    (findings.filter fun finding => finding.severity = severity).length
  ⟨.info, .session, "Check finished",
    [.count "errors" (number .error), .count "warnings" (number .warning),
      .count "notes" (number .note), .count "baselined" (number .baseline)]⟩

/-- The counters of a summary are these numbers. -/
theorem Session.checkFinished_of (findings : List Finding) :
    checkFinished (.of findings) = Finding.tally findings := by
  have same (severity : Severity) :
      Summary.count severity findings =
        (findings.filter fun finding => finding.severity = severity).length :=
    List.countP_eq_length_filter
  simp only [checkFinished, Finding.tally, Summary.of, same]

def Logging.Record.isTally (record : Logging.Record) : Bool :=
  record.origin = .session && record.message = "Check finished"

def Event.isReview : Event → Bool
  | .called _ => true
  | .logged record => record.isTally
  | _ => false

/-- The requests and the tallies of a trace, in order. -/
def Trace.reviews (trace : Trace) : Trace := trace.filter Event.isReview

@[simp] theorem Trace.reviews_append (a b : Trace) : reviews (a ++ b) = reviews a ++ reviews b :=
  List.filter_append ..

/-- The tally that is due for a reply: a check has one, another request has none. -/
def Request.due : Request → Reply → Trace
  | .check, reply => [.logged (Finding.tally (Finding.ofReport reply.stdout))]
  | _, _ => []

/-- The tally that is due once a request has been answered.  Without a reply none is. -/
def Request.dueAfter (request : Request) : Except DaemonError Reply → Trace
  | .ok reply => request.due reply
  | .error _ => []

namespace Client

/-- The requests, each with the tally that is due for its reply. -/
def reviews (client : Client σ) : σ → List Request → Trace
  | _, [] => []
  | state, request :: rest =>
      let answer := client.invoke request state
      .called request :: (request.dueAfter answer.reply ++ client.reviews answer.state rest)

theorem reviews_append (client : Client σ) (state : σ) (first second : List Request) :
    client.reviews state (first ++ second) =
      client.reviews state first ++ client.reviews (client.stateAfter state first) second := by
  induction first generalizing state with
  | nil => rfl
  | cons request rest ih =>
    simp only [List.cons_append, reviews, ih, List.append_assoc, stateAfter, List.foldl_cons]

def Discreet (client : Client σ) : Prop :=
  ∀ request state, Trace.reviews ((client.invoke request state).trace.map ClientEvent.toEvent) = []

/-- What the client program has to log is none of the session's records. -/
theorem program_discreet (launcher : Launcher ρ) (config : Config) :
    (program launcher config).Discreet := by
  intro request site
  have prepared : Trace.reviews
      ((ProgramClient.prepare config request site).2.map ClientEvent.toEvent) = [] := by
    cases request with
    | check =>
      simp only [ProgramClient.prepare, ProgramClient.ensureScratch]
      split
      · rfl
      · split
        · rfl
        · split <;> rfl
    | _ => rfl
  simp only [program, ProgramClient.invoke]
  split <;>
  · simp only [List.map_append, Trace.reviews_append, prepared]
    rfl

end Client

/-- What may still be owed after an error: anything once a stream has failed, otherwise nothing. -/
def BridgeError.Owes : BridgeError → Trace → Prop
  | .stream _, _ => True
  | _, owed => owed = []

/-- What may still be owed at the end of an action: after a success, what it leaves to pay. -/
def Owes (left : α → Trace) : Except BridgeError α → Trace → Prop
  | .ok a, owed => owed = left a
  | .error error, owed => error.Owes owed

/-- The ledger of an outcome: what was owed before it and what came due in it have been paid in
order, but for what may still be owed at its end. -/
structure Outcome.Tallies (client : Client σ) (start : σ) (owed : Trace) (left : α → Trace)
    (outcome : Outcome σ α) : Prop where
  state_eq : outcome.world.client = client.stateAfter start outcome.trace.requests
  reviews_eq : ∃ rest, Owes left outcome.result rest ∧
    owed ++ client.reviews start outcome.trace.requests = outcome.trace.reviews ++ rest

/-- An action whose outcomes pay what is owed, and leave some to be paid. -/
def Action.Tallies (client : Client σ) (owed : Trace) (left : α → Trace) (action : Action σ α) :
    Prop :=
  ∀ world, (action.run world).Tallies client world.client owed left

section

variable {client : Client σ} {owed : Trace}

/-- What has been paid before stays paid. -/
theorem Outcome.Tallies.after {start state : σ} {past owed' : Trace} {left : α → Trace}
    {outcome : Outcome σ α} (tallies : outcome.Tallies client state owed' left)
    (state_eq : state = client.stateAfter start past.requests)
    (reviews_eq : owed ++ client.reviews start past.requests = past.reviews ++ owed') :
    (outcome.after past).Tallies client start owed left := by
  obtain ⟨reached, rest, owes, paid⟩ := tallies
  refine ⟨?_, rest, owes, ?_⟩
  · simp [reached, state_eq, Client.stateAfter_append]
  · calc owed ++ client.reviews start (outcome.after past).trace.requests
        = owed ++ client.reviews start past.requests ++
            client.reviews state outcome.trace.requests := by
          simp [Client.reviews_append, state_eq]
      _ = past.reviews ++ (owed' ++ client.reviews state outcome.trace.requests) := by
          rw [reviews_eq, List.append_assoc]
      _ = (outcome.after past).trace.reviews ++ rest := by simp [paid]

namespace Action.Tallies

theorem bind {action : Action σ α} {next : α → Action σ β} {mid : α → Trace} {left : β → Trace}
    (first : action.Tallies client owed mid)
    (second : ∀ a, (next a).Tallies client (mid a) left) :
    (action >>= next).Tallies client owed left := by
  intro world
  obtain ⟨reached, rest, owes, paid⟩ := first world
  cases h : (action.run world).result with
  | error error =>
    rw [h] at owes
    rw [run_bind_error h]
    exact ⟨reached, rest, owes, paid⟩
  | ok a =>
    rw [h] at owes
    obtain rfl : rest = mid a := owes
    rw [run_bind_ok h]
    exact (second a _).after reached paid

theorem seq {step : Action σ Unit} {rest : Action σ β} {mid : Trace} {left : β → Trace}
    (first : step.Tallies client owed fun _ => mid) (second : rest.Tallies client mid left) :
    (step >>= fun _ => rest).Tallies client owed left := by
  have any : ∀ a, ((fun _ : Unit => rest) a).Tallies client mid left := fun _ => second
  exact first.bind any

/-- A handler goes on with what the failure has left to pay. -/
theorem orElse {action : Action σ α} {handler : BridgeError → Action σ α} {left : α → Trace}
    (first : action.Tallies client owed left)
    (second : ∀ error rest, error.Owes rest → (handler error).Tallies client rest left) :
    (orElse action handler).Tallies client owed left := by
  intro world
  cases h : (action.run world).result with
  | ok a =>
    rw [run_orElse_ok h]
    exact first world
  | error error =>
    obtain ⟨reached, rest, owes, paid⟩ := first world
    rw [h] at owes
    rw [run_orElse_error h]
    exact (second error rest owes _).after reached paid

end Action.Tallies

end

section

variable (client : Client σ) (owed : Trace)

/-- Without a request or a tally the ledger stays as it is. -/
theorem Outcome.Tallies.of_no_reviews {trace : Trace} {start : σ} {world : World σ}
    {result : Except BridgeError α} {left : α → Trace} (asked : trace.requests = [])
    (none : trace.reviews = []) (same : world.client = start) (owes : Owes left result owed) :
    Outcome.Tallies client start owed left ⟨trace, world, result⟩ where
  state_eq := by rw [asked, same]; rfl
  reviews_eq := ⟨owed, owes, by rw [asked, none]; exact List.append_nil owed⟩

theorem done_tallies (left : α → Trace) (a : α) :
    (done a : Action σ α).Tallies client (left a) left :=
  fun _ => .of_no_reviews client _ rfl rfl rfl rfl

theorem fail_tallies {error : BridgeError} (owes : error.Owes owed) (left : α → Trace) :
    (fail error : Action σ α).Tallies client owed left :=
  fun _ => .of_no_reviews client owed rfl rfl rfl owes

theorem fault_tallies (error : StreamError) (left : α → Trace) :
    (fault error : Action σ α).Tallies client owed left :=
  fun _ => .of_no_reviews client owed rfl rfl rfl trivial

theorem log_tallies {record : Logging.Record} (other : record.isTally = false) :
    (log record).Tallies client owed fun _ => owed :=
  fun _ => .of_no_reviews client owed rfl
    (List.filter_cons_of_neg (by rw [Event.isReview, other]; exact Bool.false_ne_true)) rfl rfl

/-- A tally pays what is owed. -/
theorem log_tallies_of_isTally {record : Logging.Record} (tally : record.isTally = true) :
    (log record).Tallies client [.logged record] fun _ => [] := by
  intro world
  have paid : Trace.reviews [.logged record] = [.logged record] :=
    List.filter_cons_of_pos (by rw [Event.isReview, tally])
  refine ⟨rfl, [], rfl, ?_⟩
  change [Event.logged record] = Trace.reviews [.logged record] ++ []
  rw [paid, List.append_nil]

theorem write_tallies (stream : StreamName) (bytes : Bytes) :
    (write stream bytes).Tallies client owed fun _ => owed := by
  intro world
  have asked (taken : Nat) :
      Trace.requests (if taken = 0 then [] else [.wrote stream (bytes.take taken)]) = [] := by
    split <;> rfl
  have none (taken : Nat) :
      Trace.reviews (if taken = 0 then [] else [.wrote stream (bytes.take taken)]) = [] := by
    split <;> rfl
  simp only [Action.run, write]
  split
  · exact .of_no_reviews client owed (by rw [Trace.requests_append, asked]; rfl)
      (by rw [Trace.reviews_append, none]; rfl) (World.client_setSink ..) trivial
  · exact .of_no_reviews client owed (asked _) (none _) (World.client_setSink ..) rfl

theorem flush_tallies (stream : StreamName) :
    (flush stream).Tallies client owed fun _ => owed := by
  intro world
  simp only [Action.run, flush]
  split
  · exact .of_no_reviews client owed rfl rfl (World.client_setSink ..) trivial
  · exact .of_no_reviews client owed rfl rfl (World.client_setSink ..) rfl

variable {client}

/-- A reply makes a tally due. -/
theorem ask_tallies (discreet : client.Discreet) (request : Request) :
    (ask client request).Tallies client [] request.due := by
  intro world
  let answer := client.invoke request world.client
  let own := answer.trace.map ClientEvent.toEvent
  have requests_eq : Trace.requests (.called request :: own) = [request] :=
    (Trace.requests_append [.called request] own).trans (by rw [Trace.requests_map_toEvent]; rfl)
  have reviews_eq : Trace.reviews (.called request :: own) = [.called request] :=
    (Trace.reviews_append [.called request] own).trans (by rw [discreet]; rfl)
  have asked : (ask client request).run world =
      ⟨.called request :: own, { world with client := answer.state },
        answer.reply.mapError fun error => .daemon ⟨error, ""⟩⟩ := rfl
  have due : client.reviews world.client [request] =
      [.called request] ++ request.dueAfter answer.reply := by
    simp only [Client.reviews, List.append_nil]
    rfl
  rw [asked]
  refine ⟨by rw [requests_eq]; rfl, request.dueAfter answer.reply, ?_, ?_⟩
  · cases answer.reply <;> rfl
  · rw [requests_eq, reviews_eq, due, List.nil_append]

variable (client)

theorem writeText_tallies (stream : StreamName) (text : String) :
    (writeText stream text).Tallies client owed fun _ => owed :=
  write_tallies client owed stream _

theorem writeLine_tallies (stream : StreamName) (text : String) :
    (writeLine stream text).Tallies client owed fun _ => owed :=
  write_tallies client owed stream _

theorem flushBoth_tallies : flushBoth.Tallies client owed fun _ => owed :=
  (flush_tallies client owed .out).seq (flush_tallies client owed .err)

theorem settle_tallies (reply : Reply) (op : Opcode) (captured : String) :
    (settle reply op captured).Tallies client [] fun _ => [] := by
  unfold settle
  cases reply.error? op with
  | none => exact done_tallies client (fun _ => []) ()
  | some error =>
    have owes : (BridgeError.daemon ⟨error, captured⟩).Owes [] := rfl
    exact fail_tallies client [] owes fun _ => []

variable {client}

theorem recover_tallies (failure : DaemonFailure) :
    (recover failure).Tallies client [] fun _ => [] :=
  (log_tallies client [] rfl).seq ((writeLine_tallies client [] .out "").seq
    ((writeLine_tallies client [] .err _).seq (writeLine_tallies client [] .err _)))

theorem abandon_tallies {error : BridgeError} (owes : error.Owes owed) :
    (abandon error).Tallies client owed fun _ => [] :=
  (flushBoth_tallies client owed).seq (fail_tallies client owed owes fun _ => [])

theorem afterFailure_tallies (op : Opcode) (error : BridgeError) (owes : error.Owes owed) :
    (afterFailure op error).Tallies client owed fun _ => [] := by
  cases error with
  | daemon failure =>
    obtain rfl : owed = [] := owes
    simp only [afterFailure]
    split
    · exact recover_tallies failure
    · exact abandon_tallies [] rfl
  | stream _ => exact abandon_tallies owed trivial
  | config _ => exact abandon_tallies owed owes

theorem await_tallies (unreadable : Option Nat) (handled : Nat) (endSeen : Bool) :
    (await unreadable handled endSeen).Tallies client [] fun _ => [] := by
  have begun : (emit (.reading endSeen)).Tallies client [] fun _ => [] :=
    fun _ => .of_no_reviews client [] rfl rfl rfl rfl
  refine begun.seq ?_
  split
  · exact fault_tallies client [] .unread fun _ => []
  · exact done_tallies client (fun _ => []) ()

section

variable (discreet : client.Discreet)

include discreet

theorem call_tallies (request : Request) :
    (call client request).Tallies client [] request.due :=
  (ask_tallies discreet request).bind fun reply =>
    (writeText_tallies client _ .err reply.stderr).seq
      ((log_tallies client _ rfl).seq (done_tallies client request.due reply))

/-- The tally is logged before the exit status is judged. -/
theorem check_tallies (inspecting : Bool) :
    (check client inspecting).Tallies client [] fun _ => [] := by
  have last : (if inspecting then done () else writeLine .out doneMarker).Tallies client []
      fun _ => [] := by
    cases inspecting with
    | true => exact done_tallies client (fun _ => []) ()
    | false => exact writeLine_tallies client [] .out doneMarker
  refine (call_tallies discreet .check).bind fun reply => ?_
  have pays : (log (checkFinished (Summary.of (Finding.ofReport reply.stdout)))).Tallies client
      (Request.check.due reply) fun _ => [] := by
    rw [checkFinished_of]
    exact log_tallies_of_isTally client rfl
  exact (writeText_tallies client _ _ reply.stdout).seq
    (pays.seq ((settle_tallies client reply .check "").seq last))

theorem suggest_tallies (symbol : String) :
    (suggest client symbol).Tallies client [] fun _ => [] := by
  refine (call_tallies discreet (.suggest symbol)).bind fun reply => ?_
  have other : (suggestionReceived symbol reply.stdout).isTally = false := by
    unfold suggestionReceived
    split <;> rfl
  exact (writeText_tallies client [] .out reply.stdout).seq
    ((settle_tallies client reply .suggest "").seq
      ((log_tallies client [] other).seq (writeLine_tallies client [] .out doneMarker)))

theorem inspect_tallies (location : String) :
    (inspect client location).Tallies client [] fun _ => [] :=
  (call_tallies discreet (.inspect location)).bind fun reply =>
    (settle_tallies client reply .inspect reply.stdout).seq
      ((writeLine_tallies client [] .out _).seq (writeLine_tallies client [] .err _))

theorem perform_tallies (command : Command) (op : Opcode) :
    (perform client command op).Tallies client [] fun _ => [] := by
  cases op with
  | check => exact check_tallies discreet _
  | suggest => exact suggest_tallies discreet _
  | inspect => exact inspect_tallies discreet _

theorem answerOpcode_tallies (command : Command) (op : Opcode) :
    (answerOpcode client command op).Tallies client [] fun _ => [] :=
  (perform_tallies discreet command op).orElse fun error rest owes =>
    afterFailure_tallies rest op error owes

theorem answerOpcodes_tallies (command : Command) (ops : List Opcode) :
    (answerOpcodes client command ops).Tallies client [] fun _ => [] := by
  induction ops with
  | nil => exact done_tallies client (fun _ => []) ()
  | cons op rest ih => exact (answerOpcode_tallies discreet command op).seq ih

theorem takeTurn_tallies (clock : Nat → String) (unreadable : Option Nat) (handled : Nat)
    (piece : Bytes) :
    (takeTurn client clock unreadable handled piece).Tallies client [] fun _ => [] :=
  (await_tallies unreadable handled false).seq ((writeLine_tallies client [] .err _).seq
    ((answerOpcodes_tallies discreet _ _).seq (flushBoth_tallies client [])))

theorem servePieces_tallies (clock : Nat → String) (unreadable : Option Nat) (handled : Nat)
    (endSeen : Bool) (pieces : List Bytes) :
    (servePieces client clock unreadable handled endSeen pieces).Tallies client [] fun _ => [] := by
  induction pieces generalizing handled endSeen with
  | nil => exact (await_tallies unreadable handled endSeen).seq (log_tallies client [] rfl)
  | cons piece rest ih =>
    exact (takeTurn_tallies discreet clock unreadable handled piece).seq (ih _ _)

end

end

namespace Session

/-- The log of a session has the tallies that are due for its checks, each before the next request
and no others.  Only after the failure of a stream can it stop short of them. -/
theorem serve_tallies {client : Client σ} (discreet : client.Discreet) (clock : Nat → String)
    (input : Input) (world : World σ) :
    let session := (serve client clock input).run world
    let due := client.reviews world.client session.trace.requests
    session.trace.reviews <+: due ∧
      ((∀ fault, session.result ≠ .error (.stream fault)) → session.trace.reviews = due) := by
  intro session due
  obtain ⟨-, rest, owes, paid⟩ :=
    servePieces_tallies discreet clock input.unreadable 0 false (Input.pieces input.bytes) world
  have paid : due = session.trace.reviews ++ rest := paid
  refine ⟨⟨rest, paid.symm⟩, fun unfailing => ?_⟩
  have nothing : rest = [] := by
    cases h : session.result with
    | ok _ => exact (h ▸ owes : Owes _ (.ok ()) rest)
    | error error =>
      have owes : error.Owes rest := (h ▸ owes : Owes _ (.error error) rest)
      cases error with
      | stream fault => exact absurd h (unfailing fault)
      | daemon _ => exact owes
      | config _ => exact owes
  rw [paid, nothing, List.append_nil]

end Session

namespace Finding

/-- A report can be read line by line.  Joined by a line feed, two reports say what each of them
says, and white space in front of line feeds says nothing.  A text without line feeds has at most
one finding.  Each counter of the summary is the number of the findings of its severity, they add
up to the number of findings, and the counters of joined reports are the sums.  A session over the
client program logs these counts after each check that returns, unless one of its streams has
failed. -/
theorem reports_by_lines :
    (∀ a b, ofReport (a ++ "\n" ++ b) = ofReport a ++ ofReport b) ∧
    (∀ report, ofReport (String.ofList (Text.withReturns report.toList)) = ofReport report) ∧
    (∀ report report', Text.Padded report.toList report'.toList →
      ofReport report' = ofReport report) ∧
    (∀ report, '\n' ∉ report.toList → (ofReport report).length ≤ 1) ∧
    (∀ report,
      let findings := ofReport report
      let summary := Summary.of findings
      (∀ severity, summary.counter severity =
        (findings.filter fun finding => finding.severity = severity).length) ∧
      summary.errors + summary.warnings + summary.notes + summary.baselined = findings.length) ∧
    (∀ a b severity, (Summary.of (ofReport (a ++ "\n" ++ b))).counter severity =
      (Summary.of (ofReport a)).counter severity + (Summary.of (ofReport b)).counter severity) ∧
    (∀ (ρ : Type) (launcher : Launcher ρ) (config : Config) (clock : Nat → String) (input : Input)
      (out err : Sink) (site : Site ρ),
      let client := Client.program launcher config
      let session := (serve client clock input).run ⟨out, err, site⟩
      let due := client.reviews site session.trace.requests
      session.trace.reviews <+: due ∧
        ((∀ fault, session.result ≠ .error (.stream fault)) → session.trace.reviews = due)) := by
  refine ⟨ofReport_append, fun report => ?_, fun _ _ => ofReport_of_padded,
    fun _ => length_ofReport_le_one, fun report => ⟨Summary.counter_of _, Summary.sum_counters _⟩,
    fun a b severity => ?_, fun ρ launcher config clock input out err site => ?_⟩
  · refine ofReport_of_padded ?_
    rw [String.toList_ofList]
    exact Text.padded_withReturns _
  · rw [ofReport_append, Summary.counter_of, List.filter_append, List.length_append,
      Summary.counter_of, Summary.counter_of]
  · exact serve_tallies (Client.program_discreet launcher config) clock input _

/-- A line of findings after an empty one, with white space in front of the line feed, and a session
that logs a check with that report. -/
theorem reports_by_lines_of_padded :
    let finding := "a:1:2: note: x"
    let padded := " \t\n" ++ finding
    let site : Site (List (Except Execution.Failure Execution.Output)) :=
      ⟨.empty, [], [.ok ⟨Utf8.encode padded, [], some 1⟩]⟩
    let client := Client.program Launcher.scripted Config.default
    let session := (serve client (fun _ => "09:00:00.000000")
      (.ofBytes (Utf8.encode "run\n"))).run ⟨.healthy, .healthy, site⟩
    Text.Padded ("\n" ++ finding).toList padded.toList ∧ '\n' ∉ finding.toList ∧
      ofReport padded = ofReport ("" ++ "\n" ++ finding) ∧ (ofReport finding).length ≤ 1 ∧
      (∀ fault, session.result ≠ .error (.stream fault)) ∧
      session.trace.reviews = client.reviews site session.trace.requests ∧
      session.trace.reviews.length = 2 := by
  intro finding padded site client session
  obtain ⟨-, -, of_padded, at_most_one, -, -, logged⟩ := reports_by_lines
  have same : Text.withReturns finding.toList = finding.toList := by decide
  have white : Text.Padded ("\n" ++ finding).toList padded.toList := by
    have rest := Text.padded_withReturns finding.toList
    rw [same] at rest
    have cut : padded.toList = [' ', '\t'] ++ '\n' :: finding.toList := by decide
    rw [cut, String.toList_append]
    exact .pad [' ', '\t'] (by decide) (by decide) rest
  have oneLine : '\n' ∉ finding.toList := by decide
  have ended : session.result = .ok () := by decide +kernel
  have healthy (fault : StreamError) : session.result ≠ .error (.stream fault) := by
    rw [ended]
    nofun
  exact ⟨white, oneLine, of_padded _ _ white, at_most_one finding oneLine, healthy,
    (logged _ Launcher.scripted Config.default _ _ _ _ site).2 healthy, by decide +kernel⟩

end Finding

end EditorBridge
