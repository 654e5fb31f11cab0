import EditorBridge.Program.Run
import EditorBridge.Proofs.Config.Precedence
import EditorBridge.Proofs.Daemon.Forwarding

/-!
# The stages of a run

A run goes through stages: the command line is read, the configuration is found, and the input is
served.  The first stage that fails, or is all that was asked for, decides the exit status, and what
would have come after it has not begun (`status_by_stages`).  What is left by serving is told by the
account of the input (`serve_accounts`).
-/
namespace EditorBridge

open EditorBridge.CommandLine

variable {ρ σ : Type}

namespace Client

/-- Only the end of the input finishes anything. -/
theorem finish_mem_carryOut {client : Client σ} {state : σ} {errands : List Errand}
    (member : .finish ∈ client.carryOut state errands) : .finish ∈ errands := by
  induction errands generalizing state with
  | nil => cases member
  | cons errand rest ih =>
    cases errand with
    | finish => exact List.mem_cons_self
    | line _ _ =>
      obtain h | later := List.mem_cons.mp member
      · cases h
      · exact List.mem_cons_of_mem _ (ih later)
    | request _ _ =>
      obtain h | later := List.mem_cons.mp member
      · cases h
      · exact List.mem_cons_of_mem _ (ih later)

/-- A session comes to the end of its input exactly if nothing ends it before. -/
theorem finish_mem_account_iff (client : Client σ) (state : σ) (bytes : Bytes) :
    .finish ∈ client.account state bytes ↔
      (client.conversation state bytes).findSome? Deed.fatal? = none := by
  let errands := ((Input.pieces bytes).zipIdx 0).flatMap fun entry =>
    Errand.ofPiece entry.2 entry.1
  let deeds := client.carryOut state errands
  have unfinished : Deed.finish ∉ deeds := fun member => by
    obtain ⟨_, _, member⟩ := List.mem_flatMap.mp (finish_mem_carryOut member)
    simp [Errand.ofPiece] at member
  have whole : client.conversation state bytes = deeds ++ [.finish] :=
    client.carryOut_append state errands [.finish]
  have last : ([Deed.finish].findSome? Deed.fatal?) = none := rfl
  rw [account, whole, List.findSome?_append, last, Option.or_none]
  cases h : deeds.findSome? Deed.fatal? with
  | none =>
    rw [Deed.upToFatal_append_of_none h]
    exact iff_of_true (List.mem_append_right _ List.mem_cons_self) rfl
  | some error =>
    rw [Deed.upToFatal_append_of_some h]
    exact iff_of_false (fun member => unfinished ((Deed.upToFatal_isPrefix deeds).subset member))
      (Option.some_ne_none error)

end Client

namespace Program

/-- The exit status after serving, by the failure that ended the session, if there was one. -/
def statusAfter : Option DaemonError → ExitStatus
  | none => .success
  | some (.timeout _ _) => .timeout
  | some _ => .daemon

theorem exitStatus_daemon (error : DaemonError) (captured : String) :
    (BridgeError.daemon ⟨error, captured⟩).exitStatus = statusAfter (some error) := by
  cases error <;> rfl

section

variable (launcher : Launcher ρ) (around : Surroundings) (config : Config) (site : Site ρ)
  (input : Bytes)

def session : Outcome (Site ρ) Unit :=
  (Session.serve (Client.program launcher config) around.clock (.ofBytes input)).run (.healthy site)

theorem status_serve_ok (ended : (session launcher around config site input).result = .ok ()) :
    (serve launcher around config site input).status = .success := by
  unfold session World.healthy at ended
  simp only [serve, ended]

theorem status_serve_error {error : BridgeError}
    (ended : (session launcher around config site input).result = .error error) :
    (serve launcher around config site input).status = error.exitStatus := by
  unfold session World.healthy at ended
  simp only [serve, ended]

/-- What is left by serving: stdout and the site are as the account of the input tells, and the
first failure that ends the session decides the exit status. -/
theorem serve_accounts :
    let client := Client.program launcher config
    let account := client.account site input
    let result := serve launcher around config site input
    result.stdout = Deed.written account ∧
      result.status = statusAfter ((client.conversation site input).findSome? Deed.fatal?) ∧
      result.site = client.stateAfter site (account.filterMap Deed.request?) := by
  intro client account result
  have accord : (session launcher around config site input).Accords client around.clock site
      (client.conversation site input) :=
    serve_accords client around.clock site input
  have written : result.stdout = (session launcher around config site input).trace.bytesOn .out :=
    rfl
  have ended := accord.result_eq
  refine ⟨?_, ?_, congrArg World.client accord.world_eq⟩
  · rw [written, Trace.bytesOn_eq, accord.signs_eq, List.filterMap_flatMap]
    simp only [Deed.bytesOn_out_signs]
    rfl
  · cases failed : (client.conversation site input).findSome? Deed.fatal? with
    | none =>
      rw [failed] at ended
      exact status_serve_ok launcher around config site input ended
    | some error =>
      rw [failed] at ended
      rw [← exitStatus_daemon error ""]
      exact status_serve_error launcher around config site input ended

end

/-- Whether a run has its result before it serves anything: the result is the same whatever runs
programs, whatever surrounds the run and whatever the input holds, and the site is left alone. -/
def Result.Early (result : Result ρ) (site : Site ρ) (arguments : List Bytes) : Prop :=
  result.site = site ∧
    ∀ (launcher : Launcher ρ) (around : Surroundings) (input : Bytes),
      run launcher around site arguments input = result

section

variable {site : Site ρ} {arguments : List Bytes}

theorem run_of_begin_over (launcher : Launcher ρ) (around : Surroundings) (input : Bytes)
    {result : Result ρ} (begun : begin site arguments = .over result) :
    run launcher around site arguments input = result := by
  rw [run, begun]

theorem Result.Early.of_begin {result : Result ρ} (begun : begin site arguments = .over result)
    (same : result.site = site) : result.Early site arguments :=
  ⟨same, fun launcher around input => run_of_begin_over launcher around input begun⟩

/-- What is left when the command line is refused. -/
def refusedResult (site : Site ρ) : Refusal → Result ρ
  | .help full => .told site (helpText full)
  | .version => .told site versionLine
  | .misuse error => .refused site (misuseText error)

theorem begin_of_refusal {refusal : Refusal} (refused : Flags.read arguments = .error refusal)
    (site : Site ρ) : begin site arguments = .over (refusedResult site refusal) := by
  cases refusal <;> simp only [begin, refused, refusedResult]

variable {flags : Flags} (read : Flags.read arguments = .ok flags)

include read

theorem begin_of_error {error : ConfigError}
    (failed : Config.discover site.files site.directory (pathOf site.directory) flags.overrides =
      .error error) :
    begin site arguments = .over (.refused site (BridgeError.config error).report) := by
  simp only [begin, read, failed]

theorem begin_of_config {config : Config}
    (found : Config.discover site.files site.directory (pathOf site.directory) flags.overrides =
      .ok config) :
    begin site arguments =
      if flags.printConfig then .over (.told site (configurationText config))
      else .serving config := by
  simp only [begin, read, found]

end

/-- The line for a key with its value and its source, in columns. -/
def listingLine : String × String × String → String
  | (key, value, source) =>
      padRight 14 key ++ " = " ++ padRight 30 value ++ " (" ++ source ++ ")\n"

/-- The lines that show a configuration are encoded one by one. -/
theorem encode_configurationText (config : Config) :
    Utf8.encode (configurationText config) =
      config.effective.flatMap fun entry => Utf8.encode (listingLine entry) := by
  have lines : configurationText config = String.join (config.effective.map listingLine) := rfl
  rw [lines, Utf8.encode, String.toList_join, List.flatMap_map, List.flatMap_assoc]
  rfl

/-- The first stage that fails decides the exit status.  A command line that is refused is so
wherever the bridge runs; a wish to read about it exits with 0, any other refusal with 2.  Then a
configuration that is not found exits with 2, reported on stderr and with nothing on stdout, and one
that is to be shown is listed on stdout.  None of these looks at the input, runs a program or
changes a file.  Otherwise the exit status is the verdict of serving: 0 if the end of the input is
reached, and else what the first failure of a check or a suggestion has decided. -/
theorem status_by_stages (launcher : Launcher ρ) (around : Surroundings) (site : Site ρ)
    (arguments : List Bytes) (input : Bytes) :
    let result := run launcher around site arguments input
    let discovered (flags : Flags) : Except ConfigError Config :=
      Config.discover site.files site.directory (pathOf site.directory) flags.overrides
    (∀ refusal, Flags.read arguments = .error refusal →
      result.status.number = (match refusal with
        | .help _ | .version => 0
        | .misuse _ => 2) ∧
      result.Early site arguments ∧
      ∀ (τ : Type) (launcher' : Launcher τ) (around' : Surroundings) (site' : Site τ)
        (input' : Bytes),
        let result' := run launcher' around' site' arguments input'
        result'.stdout = result.stdout ∧ result'.stderr = result.stderr ∧
          result'.status = result.status ∧ result'.site = site') ∧
    (∀ flags error, Flags.read arguments = .ok flags → discovered flags = .error error →
      result.status.number = 2 ∧ result.stdout = [] ∧
      result.stderr = Utf8.encode (BridgeError.config error).report ∧
      result.Early site arguments) ∧
    (∀ flags config, Flags.read arguments = .ok flags → discovered flags = .ok config →
      flags.printConfig = true →
      result.status.number = 0 ∧ result.stderr = [] ∧
      (∃ listing, Config.Listed listing config ∧
        result.stdout = listing.flatMap fun entry => Utf8.encode (listingLine entry)) ∧
      result.Early site arguments) ∧
    (∀ flags config, Flags.read arguments = .ok flags → discovered flags = .ok config →
      flags.printConfig = false →
      let client := Client.program launcher config
      result.status.number = (match (client.conversation site input).findSome? Deed.fatal? with
        | none => 0
        | some (.timeout _ _) => 10
        | some _ => 70) ∧
      (result.status.number = 0 ↔ .finish ∈ client.account site input)) := by
  intro result discovered
  refine ⟨fun refusal refused => ?_, fun flags error read failed => ?_,
    fun flags config read found shows => ?_, fun flags config read found serves => ?_⟩
  · -- The result is the same up to the site, which it leaves as it is.
    have begun := begin_of_refusal refused site
    have ended : result = refusedResult site refusal := run_of_begin_over _ _ _ begun
    have alone : (refusedResult site refusal).site = site := by cases refusal <;> rfl
    rw [ended]
    refine ⟨by cases refusal <;> rfl, .of_begin begun alone, ?_⟩
    intro τ launcher' around' site' input'
    rw [run_of_begin_over launcher' around' input' (begin_of_refusal refused site')]
    cases refusal <;> exact ⟨rfl, rfl, rfl, rfl⟩
  · have begun := begin_of_error read failed
    have ended : result = .refused site (BridgeError.config error).report :=
      run_of_begin_over _ _ _ begun
    have reported : result.stderr = Utf8.encode (BridgeError.config error).report := by
      rw [ended, Result.refused]
    refine ⟨?_, ?_, reported, ?_⟩
    · rw [ended]
      rfl
    · rw [ended]
      rfl
    · rw [ended]
      exact .of_begin begun rfl
  · have begun : begin site arguments = .over (.told site (configurationText config)) :=
      (begin_of_config read found).trans (if_pos shows)
    have ended : result = .told site (configurationText config) := run_of_begin_over _ _ _ begun
    have shown : result.stdout = config.effective.flatMap fun entry =>
        Utf8.encode (listingLine entry) := by
      rw [← encode_configurationText, ended, Result.told]
    refine ⟨?_, ?_, ⟨_, Config.listed_effective config, shown⟩, ?_⟩
    · rw [ended]
      rfl
    · rw [ended]
      rfl
    · rw [ended]
      exact .of_begin begun rfl
  · intro client
    have begun : begin site arguments = .serving config :=
      (begin_of_config read found).trans (if_neg (ne_true_of_eq_false serves))
    have served : result = serve launcher around config site input := by
      simp only [result, run, begun]
    obtain ⟨-, settled, -⟩ := serve_accounts launcher around config site input
    rw [served, settled, Client.finish_mem_account_iff]
    cases (client.conversation site input).findSome? Deed.fatal? with
    | none => exact ⟨rfl, iff_of_true rfl rfl⟩
    | some error => cases error <;> simp [statusAfter, ExitStatus.number]

/-- A line that is refused, a timeout of zero, a configuration that is shown, and a check that takes
too long. -/
theorem status_by_stages_of_late_check :
    let site : Site (List (Except Execution.Failure Execution.Output)) :=
      ⟨.empty, [], [.error (.timeout 30)]⟩
    let around : Surroundings :=
      ⟨[], some "off", fun _ => "09:00:00.000000", "09:00:00.000000", "1"⟩
    let input := Utf8.encode "run\n"
    let result (arguments : List String) :=
      run Launcher.scripted around site (arguments.map Utf8.encode) input
    let client := Client.program Launcher.scripted Config.default
    (result ["--version", "--timeout=0"]).status.number = 0 ∧
      (result ["--timeout=soon"]).status.number = 2 ∧
      (result ["--timeout=0"]).status.number = 2 ∧ (result ["--timeout=0"]).stdout = [] ∧
      (result ["--print-config"]).status.number = 0 ∧ (result ["--print-config"]).stderr = [] ∧
      (result []).status.number = 10 ∧ .finish ∉ client.account site input := by
  intro site around input result client
  have stages (arguments : List String) :=
    status_by_stages Launcher.scripted around site (arguments.map Utf8.encode) input
  have version := (stages ["--version", "--timeout=0"]).1 .version (by decide +kernel)
  have misused := (stages ["--timeout=soon"]).1 (.misuse .notNumber) (by decide +kernel)
  have faulty := (stages ["--timeout=0"]).2.1 { Flags.none with timeout := some 0 }
    (.invalidValue "timeout_secs" "must be greater than 0") (by decide +kernel) (by decide +kernel)
  have shown := (stages ["--print-config"]).2.2.1 { Flags.none with printConfig := true }
    Config.default (by decide +kernel) (by decide +kernel) rfl
  have late := (stages []).2.2.2 Flags.none Config.default (by decide +kernel)
    (by decide +kernel) rfl
  have failure : (client.conversation site input).findSome? Deed.fatal? =
      some (.timeout .check 30) := by decide +kernel
  have status : (result []).status.number = 10 := late.1.trans (by rw [failure])
  refine ⟨version.1, misused.1, faulty.1, faulty.2.1, shown.1, shown.2.1, status, ?_⟩
  rw [← late.2]
  exact status ▸ by decide

end Program

end EditorBridge
