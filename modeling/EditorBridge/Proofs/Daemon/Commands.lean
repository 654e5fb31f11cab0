import EditorBridge.Proofs.Command.Tokens
import EditorBridge.Proofs.Daemon.Scratch
import EditorBridge.Proofs.Text.Decoding

/-!
# What is run in a session

The configuration and the input lines decide which commands a session runs, element for element: the
configured program, its configured arguments, the status file, and the arguments of one operation.
The first token of a line reaches the program as one element, whatever characters it has, and moves
no other.  What a check names last is the scratch file that was seen to before.
-/
namespace EditorBridge

open EditorBridge.Action EditorBridge.Session

variable {ρ : Type}

/-- The arguments of an operation that a line asks for, when its first token is `token`. -/
def Opcode.subcommand (token : String) : Opcode → List String
  | check =>
      ["run", "--", "--show-error-end", "--no-pretty", "--hide-error-code-links",
        "--hide-error-context", ".", ".mypy_cache/__mypy_plugin_temp__.py"]
  | suggest => ["suggest", token, "--json"]
  | inspect => ["inspect", token]

theorem Request.arguments_about (token : String) (op : Opcode) :
    (Request.about token op).arguments = op.subcommand token := by
  cases op <;> rfl

/-- Different requests have different arguments. -/
theorem Request.arguments_inj {request request' : Request} :
    request.arguments = request'.arguments ↔ request = request' := by
  cases request <;> cases request' <;> simp [Request.arguments]

namespace Config

def commonArguments (config : Config) : List String :=
  config.programArgs.value ++ ["--status-file", config.statusFile.value]

def commandFor (config : Config) (token : String) (op : Opcode) :
    Execution.Invocation × Option Nat :=
  (⟨Utf8.encode config.program.value,
      (config.commonArguments ++ op.subcommand token).map Utf8.encode, config.projectDir.value⟩,
    config.timeoutSecs.value)

variable (config : Config)

theorem invocation_about (token : String) (op : Opcode) :
    (config.invocation (.about token op), config.timeoutSecs.value) =
      config.commandFor token op := by
  rw [invocation, Request.arguments_about]
  rfl

/-- No request is mistaken for another. -/
theorem arguments_invocation_inj {request request' : Request} :
    (config.invocation request).arguments = (config.invocation request').arguments ↔
      request = request' := by
  have cancel : (config.invocation request).arguments = (config.invocation request').arguments ↔
      request.arguments = request'.arguments := by
    rw [invocation, invocation, List.map_inj_right fun _ _ => Utf8.encode_inj.mp]
    exact List.append_right_inj _
  rw [cancel, Request.arguments_inj]

/-- Another first token replaces the one element that it is, and none for a check. -/
theorem arguments_commandFor (op : Opcode) (token token' : String) :
    (config.commandFor token' op).1.arguments =
      if op = .check then (config.commandFor token op).1.arguments
      else (config.commandFor token op).1.arguments.set (config.commonArguments.length + 1)
        (Utf8.encode token') := by
  cases op with
  | check => rfl
  | _ => simp [commandFor, Opcode.subcommand]

theorem getLast?_arguments_check :
    (config.invocation .check).arguments.getLast? =
      some (Path.ofString Request.scratchFile) := by
  have last : Request.check.arguments.getLast? = some Request.scratchFile := rfl
  rw [invocation, List.map_append, List.getLast?_append, List.getLast?_map, last]
  rfl

/-- The scratch file is meant from the directory that the program works in. -/
theorem scratchPath_eq_elim :
    config.scratchPath =
      (config.invocation .check).directory.elim (Path.ofString Request.scratchFile)
        fun directory => Path.join directory (Path.ofString Request.scratchFile) := by
  unfold scratchPath invocation
  cases config.projectDir.value <;> rfl

end Config

/-- The commands that input lines ask for, one operation after the other. -/
theorem Input.requests_eq (config : Config) (input : Input) :
    (input.requests.map fun request => (config.invocation request, config.timeoutSecs.value)) =
      ((pieces input.bytes).map fun piece => Command.parse (Utf8.decodeLossy piece)).flatMap
        fun command => command.opcodes.map (config.commandFor command.argument) := by
  rw [requests, List.map_flatMap, List.flatMap_map]
  refine List.flatMap_congr fun piece _ => ?_
  rw [Errand.requests, List.map_map]
  exact List.map_congr_left fun op _ => config.invocation_about _ op

/-- For a check the program is run on the files in which the scratch file has been seen to, and what
comes of it is where the next request begins. -/
theorem Client.dealings_check (launcher : Launcher ρ) (config : Config) (site : Site ρ)
    (rest : List Request) :
    let files := (ProgramClient.ensureScratch site.files site.directory config.scratchPath).1
    (Client.program launcher config).dealings site (.check :: rest) =
      config.dealing .check (files.pathExists site.directory config.scratchPath)
        ++ (Client.program launcher config).dealings
          (launcher.run (config.invocation .check) config.timeoutSecs.value
            { site with files }).1 rest := by
  intro files
  have after : ((Client.program launcher config).invoke .check site).state =
      (launcher.run (config.invocation .check) config.timeoutSecs.value { site with files }).1 :=
    ProgramClient.invoke_state launcher config .check site
  rw [dealings_program_cons, after]
  rfl

namespace Session

/-- What a session runs is what its lines ask for, up to where it ends: for each request one command
that the configuration and the first token of the line decide.  The first token is one element of
the command as it stands in the line, and changes no other.  What a check names last, meant from the
directory that the program works in, is the scratch file that has been seen to before the program
starts. -/
theorem commands_of_session (launcher : Launcher ρ) (config : Config) (clock : Nat → String)
    (input : Input) (world : World (Site ρ)) :
    let client := Client.program launcher config
    let session := (serve client clock input).run world
    let commands :=
      (Input.pieces input.bytes).map fun piece => Command.parse (Utf8.decodeLossy piece)
    let check := config.invocation .check
    session.trace.runs.length = session.trace.requests.length ∧
    (session.trace.runs <+: commands.flatMap fun command =>
      command.opcodes.map (config.commandFor command.argument)) ∧
    (∀ line, Command.IsFirstToken (Command.parse line).argument.toList
      (Text.trim line.toList)) ∧
    (∀ request request',
      (config.invocation request).arguments = (config.invocation request').arguments ↔
        request = request') ∧
    (∀ op token token',
      (config.commandFor token' op).1.arguments =
        if op = .check then (config.commandFor token op).1.arguments
        else (config.commandFor token op).1.arguments.set (config.commonArguments.length + 1)
          (Utf8.encode token')) ∧
    ∃ last, check.arguments.getLast? = some last ∧
      let target : Path :=
        check.directory.elim last fun directory => Path.join directory last
      ∀ before after, session.trace.requests = before ++ .check :: after →
        let site := client.stateAfter world.client before
        let files := (ProgramClient.ensureScratch site.files site.directory target).1
        let found := files.pathExists site.directory target
        session.trace.dealings =
          client.dealings world.client before
            ++ [.called .check, .spawned check config.timeoutSecs.value found]
            ++ client.dealings
              (launcher.run check config.timeoutSecs.value { site with files }).1 after ∧
        (found = true ∨ target.Refused ∨
          ∃ parent ∈ target.parents, files.isBlocked site.directory parent = true) := by
  intro client session commands check
  have ran : session.trace.runs = _ := runs_serve launcher config clock input world
  obtain ⟨left, plays⟩ := serve_plays client clock input world
  refine ⟨?_, ?_, Command.isFirstToken_argument, fun _ _ => config.arguments_invocation_inj,
    config.arguments_commandFor, _, config.getLast?_arguments_check, ?_⟩
  · rw [ran, List.length_map]
  · have asked : session.trace.requests <+: input.requests := ⟨left, plays.ahead_eq.symm⟩
    rw [ran, ← input.requests_eq config]
    exact asked.map _
  · intro target before after requests_eq site files found
    have target_eq : target = config.scratchPath := config.scratchPath_eq_elim.symm
    clear_value target
    subst target_eq
    refine ⟨?_, ProgramClient.ensureScratch_there config site.files site.directory⟩
    have dealt : session.trace.dealings = client.dealings world.client session.trace.requests :=
      plays.dealings_eq
    rw [dealt, requests_eq, Client.dealings_append, Client.dealings_check, List.append_assoc]
    rfl

end Session

end EditorBridge
