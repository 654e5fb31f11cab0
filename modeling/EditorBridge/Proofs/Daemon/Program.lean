import EditorBridge.Daemon.Client
import EditorBridge.Proofs.Session.Composition
import EditorBridge.Proofs.Session.Scripts

/-!
# Sessions over the client program

A session over the client program is the session over a script, in which each result of a run of the
program is told as the reply to the request that was being answered.  The configuration and the
files have no part in it: they only decide what is run, once for each request.
-/
namespace EditorBridge

open EditorBridge.Action EditorBridge.Session

variable {ρ σ : Type}

namespace ProgramClient

/-- What the result of a run of the program means as the reply to a request: an output is decoded,
a failure to run the program is one to start it, and a request has timed out with its own opcode. -/
def translate (request : Request) :
    Except Execution.Failure Execution.Output → Except DaemonError Reply
  | .ok output =>
      .ok ⟨Utf8.decodeLossy output.stdout, Utf8.decodeLossy output.stderr, output.exitCode⟩
  | .error (.spawn program reason) => .error (.spawn program reason)
  | .error (.wait program reason) => .error (.spawn program reason)
  | .error (.timeout seconds) => .error (.timeout request.opcode seconds)

/-- What comes of running the program for a request. -/
def launch (launcher : Launcher ρ) (config : Config) (request : Request) (site : Site ρ) :
    Site ρ × Except Execution.Failure Execution.Output :=
  launcher.run (config.invocation request) config.timeoutSecs.value (prepare config request site).1

section

variable (launcher : Launcher ρ) (config : Config) (request : Request) (site : Site ρ)

theorem invoke_reply :
    (invoke launcher config request site).reply =
      translate request (launch launcher config request site).2 := by
  simp only [invoke, launch]
  split <;> rename_i result h <;> rw [h]
  · rfl
  · cases result <;> rfl

theorem invoke_state :
    (invoke launcher config request site).state = (launch launcher config request site).1 := by
  simp only [invoke, launch]
  split <;> rfl

/-- To prepare for a request is no dealing with the daemon. -/
theorem dealings_prepare :
    Trace.dealings ((prepare config request site).2.map ClientEvent.toEvent) = [] := by
  cases request with
  | check =>
    simp only [prepare, ensureScratch]
    split
    · rfl
    · split
      · rfl
      · split <;> rfl
  | _ => rfl

/-- The program is run once, after everything is prepared. -/
theorem dealings_invoke :
    let prepared := (prepare config request site).1
    Trace.dealings ((invoke launcher config request site).trace.map ClientEvent.toEvent) =
      [.spawned (config.invocation request) config.timeoutSecs.value
        (prepared.files.pathExists prepared.directory config.scratchPath)] := by
  intro prepared
  have quiet := dealings_prepare config request site
  simp only [invoke]
  split <;>
  · simp only [List.map_append, Trace.dealings_append, quiet]
    rfl

end

/-- The files once everything is prepared for a request. -/
def preparedFiles (config : Config) (request : Request) (files : FileTree) (directory : Location) :
    FileTree :=
  match request with
  | .check => (ensureScratch files directory config.scratchPath).1
  | .suggest _ | .inspect _ => files

/-- To prepare for a request changes nothing but the files. -/
theorem prepare_site (config : Config) (request : Request) (site : Site ρ) :
    (prepare config request site).1 =
      { site with files := preparedFiles config request site.files site.directory } := by
  cases request <;> rfl

/-- A list of results is used up one by one, and it changes no files. -/
theorem launch_scripted (config : Config) (request : Request)
    (site : Site (List (Except Execution.Failure Execution.Output))) :
    launch Launcher.scripted config request site =
      (⟨preparedFiles config request site.files site.directory, site.directory,
        site.launcher.tail⟩, site.launcher.headD (.error .noReplyLeft)) := by
  obtain ⟨files, directory, results⟩ := site
  rw [launch, prepare_site]
  cases results <;> rfl

end ProgramClient

/-- The script of a program: the results of its runs, each told as the reply to its request. -/
def Launcher.script (requests : List Request)
    (results : List (Except Execution.Failure Execution.Output)) :
    List (Except DaemonError Reply) :=
  List.zipWith ProgramClient.translate requests results

/-- One request to the daemon through the program, when the scratch file is there or not. -/
def Config.dealing (config : Config) (request : Request) (scratchExists : Bool) : Trace :=
  [.called request, .spawned (config.invocation request) config.timeoutSecs.value scratchExists]

namespace Client

/-- A list of results is used up by one request after the other, as a list of replies is. -/
theorem replies_program (config : Config)
    (site : Site (List (Except Execution.Failure Execution.Output))) (requests : List Request) :
    (Client.program Launcher.scripted config).replies site requests =
      Client.scripted.replies (Launcher.script requests site.launcher) requests := by
  induction requests generalizing site with
  | nil => rfl
  | cons request rest ih =>
    let answer := ProgramClient.invoke Launcher.scripted config request site
    have replied : answer.reply =
        ProgramClient.translate request (site.launcher.headD (.error .noReplyLeft)) := by
      rw [ProgramClient.invoke_reply, ProgramClient.launch_scripted]
    have remaining : answer.state.launcher = site.launcher.tail := by
      rw [ProgramClient.invoke_state, ProgramClient.launch_scripted]
    have later := ih answer.state
    have first : (Client.program Launcher.scripted config).replies site (request :: rest) =
        answer.reply :: (Client.program Launcher.scripted config).replies answer.state rest := rfl
    rw [first, replied, later, remaining]
    cases site.launcher with
    | nil => rw [Launcher.script, Launcher.script, List.tail_nil, List.zipWith_nil_right,
        List.zipWith_nil_right]; rfl
    | cons result results => rfl

/-- The program is run right after each request, with the files prepared for it. -/
theorem dealings_program_cons (launcher : Launcher ρ) (config : Config) (site : Site ρ)
    (request : Request) (rest : List Request) :
    let files := ProgramClient.preparedFiles config request site.files site.directory
    (Client.program launcher config).dealings site (request :: rest) =
      config.dealing request (files.pathExists site.directory config.scratchPath)
        ++ (Client.program launcher config).dealings
          ((Client.program launcher config).invoke request site).state rest := by
  intro files
  have ran := ProgramClient.dealings_invoke launcher config request site
  rw [ProgramClient.prepare_site] at ran
  have first : (Client.program launcher config).dealings site (request :: rest) =
      .called request ::
        (Trace.dealings ((ProgramClient.invoke launcher config request site).trace.map
            ClientEvent.toEvent)
          ++ (Client.program launcher config).dealings
            ((Client.program launcher config).invoke request site).state rest) := rfl
  rw [first, ran]
  rfl

/-- One run of the program for each request, right after it. -/
theorem dealings_program (launcher : Launcher ρ) (config : Config) (site : Site ρ)
    (requests : List Request) :
    ∃ found : List Bool, found.length = requests.length ∧
      (Client.program launcher config).dealings site requests =
        (List.zipWith config.dealing requests found).flatten := by
  induction requests generalizing site with
  | nil => exact ⟨[], rfl, rfl⟩
  | cons request rest ih =>
    obtain ⟨found, length_eq, dealings_eq⟩ :=
      ih ((Client.program launcher config).invoke request site).state
    rw [dealings_program_cons, dealings_eq]
    exact ⟨_ :: found, congrArg (· + 1) length_eq, rfl⟩

end Client

namespace Trace.Alike

/-- The time of day has no part in what is conduct. -/
theorem conduct {trace trace' : Trace} (alike : Trace.Alike trace trace') :
    Trace.Alike trace.conduct trace'.conduct := by
  refine List.rel_filter (fun event event' same => ?_) alike
  cases same with
  | same => exact Iff.rfl
  | echo => simp only [Event.isConduct]

/-- No time of day is written to stdout. -/
theorem bytesOn_out {trace trace' : Trace} (alike : Trace.Alike trace trace') :
    trace.bytesOn .out = trace'.bytesOn .out := by
  induction alike with
  | nil => rfl
  | @cons event event' rest rest' same _ ih =>
    have first : event.bytesOn .out = event'.bytesOn .out := by
      cases same with
      | same => rfl
      | echo => simp [Event.bytesOn]
    have told : Trace.bytesOn .out (event :: rest) =
        event.bytesOn .out ++ Trace.bytesOn .out rest := rfl
    rw [told, first, ih]
    rfl

end Trace.Alike

namespace Session

/-- Sessions at different times conduct themselves alike. -/
theorem serve_alike (client : Client σ) {clock clock' : Nat → String} (sized : Stamped clock)
    (sized' : Stamped clock') (input : Input) (world : World σ) :
    let session := (serve client clock input).run world
    let session' := (serve client clock' input).run world
    Trace.Alike session.trace.conduct session'.trace.conduct ∧
      session.result = session'.result := by
  intro session session'
  let pieces := Input.pieces input.bytes
  have ahead : ∀ n ∈ input.unreadable, 0 ≤ n := fun n _ => Nat.zero_le n
  have later := servePieces_later client clock clock' 0 0 ahead sized sized' false pieces world
  have same : input.unreadable.map (· - 0) = input.unreadable := Option.map_id' ..
  rw [same] at later
  have alike : session.AlikeUpTo session' (0 + pieces.length) (0 + (0 + pieces.length)) := later
  obtain ⟨⟨events, events', alike, shown, shown'⟩, _, result_eq⟩ := alike
  have silent (lines : Nat) : (closing lines session.result).conduct = [] := by
    cases session.result <;> rfl
  refine ⟨?_, result_eq⟩
  rw [shown, shown', Trace.conduct_append, Trace.conduct_append, silent, silent, List.append_nil,
    List.append_nil]
  exact alike.conduct

/-- A session over the client program conducts itself as the session over the script of the results,
whatever the configuration and the files are and however the streams fail.  For each request the
program is run once, in the same order.  So sessions with the same input and the same results differ
in the time of day within the echoes and in nothing else. -/
theorem program_session_plays_script (config : Config) (clock : Nat → String) (input : Input)
    (out err : Sink) (site : Site (List (Except Execution.Failure Execution.Output))) :
    let session :=
      (serve (Client.program Launcher.scripted config) clock input).run ⟨out, err, site⟩
    let scripted :=
      (serve Client.scripted clock input).run
        ⟨out, err, Launcher.script input.requests site.launcher⟩
    (session.trace.conduct = scripted.trace.conduct ∧ session.result = scripted.result) ∧
      session.trace.requests <+: input.requests ∧
      (∃ found : List Bool, found.length = session.trace.requests.length ∧
        session.trace.dealings =
          (List.zipWith config.dealing session.trace.requests found).flatten) ∧
      ∀ (config' : Config) (files' : FileTree) (directory' : Location) (now now' : Nat → Nat),
        let one :=
          (serve (Client.program Launcher.scripted config)
            (fun n => Program.timeOfDay (now n)) input).run ⟨out, err, site⟩
        let other :=
          (serve (Client.program Launcher.scripted config')
            (fun n => Program.timeOfDay (now' n)) input).run
              ⟨out, err, ⟨files', directory', site.launcher⟩⟩
        Trace.Alike one.trace.conduct other.trace.conduct ∧
          one.trace.bytesOn .out = other.trace.bytesOn .out ∧ one.result = other.result := by
  intro session scripted
  let program := Client.program Launcher.scripted config
  obtain ⟨left, plays⟩ := serve_plays program clock input ⟨out, err, site⟩
  refine ⟨?_, ?_, ?_, ?_⟩
  · exact serve_congr program Client.scripted clock input out err site _
      (Client.replies_program config site input.requests)
  · exact ⟨left, plays.ahead_eq.symm⟩
  · obtain ⟨found, length_eq, dealings_eq⟩ :=
      Client.dealings_program Launcher.scripted config site session.trace.requests
    exact ⟨found, length_eq, plays.dealings_eq.trans dealings_eq⟩
  · intro config' files' directory' now now' one other
    let program' := Client.program Launcher.scripted config'
    let site' := Site.mk files' directory' site.launcher
    have replies : program.replies site input.requests = program'.replies site' input.requests :=
      (Client.replies_program config site input.requests).trans
        (Client.replies_program config' site' input.requests).symm
    -- First the same times of day over either configuration, then the other times of day.
    obtain ⟨conduct_eq, result_eq⟩ := serve_congr program program'
      (fun n => Program.timeOfDay (now n)) input out err site site' replies
    obtain ⟨alike, result_eq'⟩ := serve_alike program' (stamped_timeOfDay now)
      (stamped_timeOfDay now') input ⟨out, err, site'⟩
    rw [← conduct_eq] at alike
    refine ⟨alike, ?_, result_eq.trans result_eq'⟩
    have stdout := alike.bytesOn_out
    rw [Trace.bytesOn_conduct, Trace.bytesOn_conduct] at stdout
    exact stdout

end Session

end EditorBridge
