import EditorBridge.Proofs.Daemon.Program
import EditorBridge.Proofs.Files.Making

/-!
# The scratch file

A session leaves the files as they were, but for the scratch file of a check and the directories
above it.  These are made before the first check, and no later request changes the files.  The
scratch file is there whenever the program checks, unless the system does not accept its path or
something stands in the way of it; that it is not there changes nothing else.
-/
namespace EditorBridge

open EditorBridge.Action EditorBridge.Session

variable {ρ σ : Type}

namespace Config

def scratchName : Bytes := Utf8.encode "__mypy_plugin_temp__.py"

theorem slash_not_mem_scratchName : Path.slash ∉ scratchName := by decide +kernel

theorem isIdle_scratchName : Path.isIdle scratchName = false := by decide +kernel

/-- The path of the scratch file ends in its name, wherever the project is. -/
theorem exists_scratchPath_eq (config : Config) :
    ∃ front, config.scratchPath = front ++ Path.slash :: scratchName := by
  let cache : Bytes := Utf8.encode ".mypy_cache"
  have scratch : Path.ofString Request.scratchFile = cache ++ Path.slash :: scratchName := by
    decide +kernel
  have relative : Path.isAbsolute (cache ++ Path.slash :: scratchName) = false := by decide +kernel
  unfold scratchPath
  rw [scratch]
  split
  · rename_i base _
    rw [Path.join, relative, if_neg (by simp)]
    split
    · exact ⟨base ++ cache, (List.append_assoc ..).symm⟩
    · exact ⟨base ++ Path.slash :: cache, by simp⟩
  · exact ⟨cache, rfl⟩

/-- The scratch file is one step below the nearest of its parents, and they lead up to the working
directory or to the root. -/
theorem scratchPath_parents (config : Config) :
    ∃ parent rest, config.scratchPath.parents = parent :: rest ∧
      Path.Under config.scratchPath config.scratchPath parent ∧
      Path.Ladder config.scratchPath (parent :: rest) := by
  obtain ⟨front, path_eq⟩ := config.exists_scratchPath_eq
  rw [path_eq]
  exact Path.parents_of_name front slash_not_mem_scratchName isIdle_scratchName

/-- The parents of the scratch file are fronts of its path. -/
theorem isPrefix_of_mem_parents (config : Config) :
    ∀ parent ∈ config.scratchPath.parents, parent <+: config.scratchPath := by
  obtain ⟨parent, rest, parents_eq, under, ladder⟩ := config.scratchPath_parents
  rw [parents_eq]
  exact ladder.isPrefix (by simpa using under.isPrefix)

/-- The scratch file is no directory by its path. -/
theorem locateFile_scratchPath (config : Config) (tree : FileTree) (directory : Location) :
    tree.locateFile directory config.scratchPath = tree.locate directory config.scratchPath := by
  obtain ⟨front, path_eq⟩ := config.exists_scratchPath_eq
  have last : config.scratchPath.getLast? = scratchName.getLast? := by
    rw [path_eq, List.getLast?_append, List.getLast?_cons]
    rfl
  have other : scratchName.getLast? ≠ some Path.slash := by decide +kernel
  rw [FileTree.locateFile, last, if_neg other]

end Config

namespace ProgramClient

section

variable (config : Config) (tree : FileTree) (directory : Location)

theorem ensureScratch_files :
    (ensureScratch tree directory config.scratchPath).1 =
      if tree.pathExists directory config.scratchPath then tree
      else (makeScratch tree directory config.scratchPath).1 := by
  unfold ensureScratch
  split
  · rfl
  · rcases makeScratch tree directory config.scratchPath with ⟨tree', result⟩
    cases result <;> rfl

/-- What comes of making the scratch file: its directory cannot be made, or the file is made in it,
or it cannot be made there. -/
theorem makeScratch_cases {tree' : FileTree} {result : Except Host.SystemError Unit}
    (h : makeScratch tree directory config.scratchPath = (tree', result)) :
    (∃ error, tree.makeDirectories directory config.scratchPath.parents = (tree', .error error)) ∨
    (∃ middle location, tree.makeDirectories directory config.scratchPath.parents =
        (middle, .ok ()) ∧
      middle.locate directory config.scratchPath = .ok location ∧
      middle.entry? location = none ∧ tree' = middle.put location (.file [] false)) ∨
    ∃ error, tree.makeDirectories directory config.scratchPath.parents = (tree', .ok ()) ∧
      tree'.create (.file [] false) (tree'.locate directory config.scratchPath) =
        (tree', .error error) := by
  obtain ⟨parent, rest, parents_eq, _⟩ := config.scratchPath_parents
  unfold makeScratch at h
  rw [parents_eq] at h ⊢
  rcases made : tree.makeDirectories directory (parent :: rest) with ⟨middle, outcome⟩
  simp only [made] at h
  cases outcome with
  | error error =>
    obtain ⟨rfl, _⟩ := Prod.mk.inj h
    exact .inl ⟨error, rfl⟩
  | ok _ =>
    have created : middle.createFile directory config.scratchPath = (tree', result) := h
    rw [FileTree.createFile, config.locateFile_scratchPath] at created
    rcases middle.create_cases (.file [] false) (middle.locate directory config.scratchPath) with
      ⟨location, located, vacant, done⟩ | ⟨_, _, _, _, failed⟩ | ⟨_, _, failed⟩
    · rw [done] at created
      obtain ⟨rfl, _⟩ := Prod.mk.inj created
      exact .inr (.inl ⟨middle, location, rfl, located, vacant, rfl⟩)
    · obtain ⟨rfl, _⟩ := Prod.mk.inj (failed.symm.trans created)
      exact .inr (.inr ⟨_, rfl, failed⟩)
    · obtain ⟨rfl, _⟩ := Prod.mk.inj (failed.symm.trans created)
      exact .inr (.inr ⟨_, rfl, failed⟩)

/-- Where the scratch file is, nothing is done. -/
theorem ensureScratch_of_pathExists
    (there : tree.pathExists directory config.scratchPath = true) :
    (ensureScratch tree directory config.scratchPath).1 = tree := by
  rw [ensureScratch_files, if_pos there]

/-- A new scratch file is where its path leads. -/
theorem pathExists_put_scratch {location : Location}
    (located : tree.locate directory config.scratchPath = .ok location)
    (vacant : tree.entry? location = none) :
    (tree.put location (.file [] false)).pathExists directory config.scratchPath = true := by
  obtain ⟨grows, entry_eq⟩ := FileTree.grows_put vacant (.file [] false)
  exact FileTree.pathExists_iff.mpr
    ⟨location, .file [] false, grows.locate located, by simp [entry_eq]⟩

/-- Where the scratch file is not, it is made if it can be. -/
theorem exists_makeScratch_eq (absent : tree.pathExists directory config.scratchPath = false) :
    ∃ result, makeScratch tree directory config.scratchPath =
      ((ensureScratch tree directory config.scratchPath).1, result) := by
  rw [ensureScratch_files, if_neg (by simp [absent])]
  exact ⟨_, rfl⟩

/-- To prepare a check keeps every entry, and adds none but the scratch file, empty, and directories
above it. -/
theorem ensureScratch_frame :
    let tree' := (ensureScratch tree directory config.scratchPath).1
    FileTree.Grows tree tree' ∧
      ∀ location entry, tree'.entry? location = some entry →
        tree.entry? location = some entry ∨
          (entry = .file [] false ∧ tree'.locate directory config.scratchPath = .ok location) ∨
          (entry = .directory ∧ ∃ parent ∈ config.scratchPath.parents,
            tree'.locate directory parent = .ok location) := by
  cases there : tree.pathExists directory config.scratchPath with
  | true =>
    rw [ensureScratch_of_pathExists config tree directory there]
    exact ⟨.refl tree, fun _ _ found => .inl found⟩
  | false =>
    obtain ⟨result, made⟩ := exists_makeScratch_eq config tree directory there
    generalize (ensureScratch tree directory config.scratchPath).1 = tree' at made ⊢
    rcases makeScratch_cases config tree directory made with
      ⟨_, parents⟩ | ⟨middle, location, parents, located, vacant, rfl⟩ | ⟨_, parents, _⟩
    · have adds := FileTree.makeDirectories_adds parents
      exact ⟨adds.grows, fun location entry found =>
        (adds.added location entry found).imp_right .inr⟩
    · have adds := FileTree.makeDirectories_adds parents
      obtain ⟨grows, entry_eq⟩ := FileTree.grows_put vacant (.file [] false)
      refine ⟨adds.grows.trans grows, fun other entry found => ?_⟩
      rw [entry_eq] at found
      split at found
      · rename_i same
        exact .inr (.inl ⟨(Option.some.inj found).symm, same ▸ grows.locate located⟩)
      · rcases adds.added other entry found with old | ⟨rfl, parent, member, above⟩
        · exact .inl old
        · exact .inr (.inr ⟨rfl, parent, member, grows.locate above⟩)
    · have adds := FileTree.makeDirectories_adds parents
      exact ⟨adds.grows, fun location entry found =>
        (adds.added location entry found).imp_right .inr⟩

/-- A second check makes nothing. -/
theorem ensureScratch_again :
    let tree' := (ensureScratch tree directory config.scratchPath).1
    (ensureScratch tree' directory config.scratchPath).1 = tree' := by
  cases there : tree.pathExists directory config.scratchPath with
  | true => simp only [ensureScratch_of_pathExists config tree directory there]
  | false =>
    obtain ⟨result, made⟩ := exists_makeScratch_eq config tree directory there
    generalize (ensureScratch tree directory config.scratchPath).1 = tree' at made ⊢
    cases again : tree'.pathExists directory config.scratchPath with
    | true => exact ensureScratch_of_pathExists config tree' directory again
    | false =>
      obtain ⟨result', remade⟩ := exists_makeScratch_eq config tree' directory again
      obtain ⟨parent, rest, parents_eq, _, ladder⟩ := config.scratchPath_parents
      have second := makeScratch_cases config tree' directory remade
      rcases makeScratch_cases config tree directory made with
        ⟨_, parents⟩ | ⟨middle, location, _, located, vacant, rfl⟩ | ⟨_, parents, failed⟩
      · rw [parents_eq] at parents second
        obtain ⟨error', still⟩ := FileTree.makeDirectories_again_error ladder parents
        rw [still] at second
        rcases second with ⟨_, same⟩ | ⟨_, _, same, _⟩ | ⟨_, same, _⟩
        · exact (Prod.mk.inj same).1.symm
        · cases (Prod.mk.inj same).2
        · cases (Prod.mk.inj same).2
      · rw [pathExists_put_scratch config middle directory located vacant] at again
        cases again
      · rw [FileTree.makeDirectories_again_ok parents] at second
        rcases second with ⟨_, same⟩ | ⟨middle, location, same, located, vacant, _⟩ | ⟨_, same, _⟩
        · cases (Prod.mk.inj same).2
        · -- Where the first check found the place taken, the second cannot find it vacant.
          obtain ⟨rfl, _⟩ := Prod.mk.inj same
          obtain ⟨found, occupied⟩ := FileTree.occupied_of_create_eq_error located failed
          rw [vacant] at occupied
          cases occupied
        · exact (Prod.mk.inj same).1.symm

/-- Afterwards the scratch file is there, unless its path is refused or something is in the way. -/
theorem ensureScratch_there :
    let tree' := (ensureScratch tree directory config.scratchPath).1
    tree'.pathExists directory config.scratchPath = true ∨ config.scratchPath.Refused ∨
      ∃ parent ∈ config.scratchPath.parents, tree'.isBlocked directory parent = true := by
  cases there : tree.pathExists directory config.scratchPath with
  | true =>
    rw [ensureScratch_of_pathExists config tree directory there]
    exact .inl there
  | false =>
    obtain ⟨result, made⟩ := exists_makeScratch_eq config tree directory there
    generalize (ensureScratch tree directory config.scratchPath).1 = tree' at made ⊢
    obtain ⟨parent, rest, parents_eq, under, ladder⟩ := config.scratchPath_parents
    refine or_iff_not_imp_left.mpr fun absent => or_iff_not_imp_left.mpr fun accepted => ?_
    rcases makeScratch_cases config tree directory made with
      ⟨_, parents⟩ | ⟨middle, location, _, located, vacant, rfl⟩ | ⟨_, parents, failed⟩
    · rw [parents_eq] at parents ⊢
      exact FileTree.isBlocked_of_makeDirectories_eq_error ladder accepted
        (by simpa using under.isPrefix) parents
    · exact absurd (pathExists_put_scratch config middle directory located vacant) absent
    · rw [parents_eq] at parents ⊢
      rcases FileTree.standsFor_or_isBlocked_of_made parents with above | blocked
      · obtain ⟨location, located⟩ := FileTree.exists_locate_of_standsFor under accepted
          (List.prefix_refl _) above
        obtain ⟨found, occupied⟩ := FileTree.occupied_of_create_eq_error located failed
        exact absurd (FileTree.pathExists_iff.mpr ⟨location, found, located, occupied⟩) absent
      · exact ⟨parent, by simp, blocked⟩

end

end ProgramClient

namespace Config

/-- A check is run in a way of its own. -/
theorem eq_check_of_invocation_eq (config : Config) {request : Request}
    (same : config.invocation request = config.invocation .check) : request = .check := by
  have long := congrArg (fun invocation => invocation.arguments.length) same
  cases request with
  | check => rfl
  | _ =>
    simp [invocation, Request.arguments, Request.reportFlags, Request.checkTargets] at long

end Config

abbrev ScriptedSite := Site (List (Except Execution.Failure Execution.Output))

namespace Client

variable (config : Config) (site : ScriptedSite) (requests : List Request)

/-- A first request leaves the files prepared, and the rest of the results. -/
theorem state_program (request : Request) :
    ((Client.program Launcher.scripted config).invoke request site).state =
      ⟨ProgramClient.preparedFiles config request site.files site.directory, site.directory,
        site.launcher.tail⟩ := by
  have state_eq := ProgramClient.invoke_state Launcher.scripted config request site
  rw [ProgramClient.launch_scripted] at state_eq
  exact state_eq

/-- After other requests, a check finds the files as it would have found them at first. -/
theorem preparedFiles_check_preparedFiles (request : Request) (files : FileTree)
    (directory : Location) :
    ProgramClient.preparedFiles config .check
        (ProgramClient.preparedFiles config request files directory) directory =
      ProgramClient.preparedFiles config .check files directory := by
  cases request with
  | check => exact ProgramClient.ensureScratch_again config files directory
  | _ => rfl

/-- Requests leave the working directory as it is, and of the files they change what a check
does. -/
theorem stateAfter_program :
    let after := (Client.program Launcher.scripted config).stateAfter site requests
    after.directory = site.directory ∧
      after.files =
        if .check ∈ requests then
          ProgramClient.preparedFiles config .check site.files site.directory
        else site.files := by
  induction requests generalizing site with
  | nil => exact ⟨rfl, rfl⟩
  | cons request rest ih =>
    have first := state_program config site request
    have next : (Client.program Launcher.scripted config).stateAfter site (request :: rest) =
        (Client.program Launcher.scripted config).stateAfter
          ((Client.program Launcher.scripted config).invoke request site).state rest := rfl
    obtain ⟨directory_eq, files_eq⟩ := ih
      ((Client.program Launcher.scripted config).invoke request site).state
    rw [next]
    rw [first] at directory_eq files_eq ⊢
    refine ⟨directory_eq, files_eq.trans ?_⟩
    simp only [preparedFiles_check_preparedFiles]
    cases request with
    | check => by_cases later : Request.check ∈ rest <;> simp [later]
    | _ => simp [ProgramClient.preparedFiles]

/-- When the program is run for a check, the scratch file has been seen to. -/
theorem spawned_check {timeout : Option Nat} {found : Bool}
    (member : .spawned (config.invocation .check) timeout found ∈
      (Client.program Launcher.scripted config).dealings site requests) :
    .check ∈ requests ∧
      found = (ProgramClient.preparedFiles config .check site.files site.directory).pathExists
        site.directory config.scratchPath := by
  induction requests generalizing site with
  | nil => cases member
  | cons request rest ih =>
    have first := state_program config site request
    rw [dealings_program_cons, List.mem_append] at member
    rcases member with now | later
    · have ran : Event.spawned (config.invocation .check) timeout found =
          .spawned (config.invocation request) config.timeoutSecs.value
            ((ProgramClient.preparedFiles config request site.files site.directory).pathExists
              site.directory config.scratchPath) := by
        simpa [Config.dealing] using now
      injection ran with invocation_eq _ found_eq
      obtain rfl := config.eq_check_of_invocation_eq invocation_eq.symm
      exact ⟨List.mem_cons_self .., found_eq⟩
    · obtain ⟨asked, found_eq⟩ := ih _ later
      rw [first] at found_eq
      exact ⟨List.mem_cons_of_mem _ asked, by rw [found_eq, preparedFiles_check_preparedFiles]⟩

end Client

/-- What is run in a trace, and how long it may take. -/
def Trace.runs (trace : Trace) : List (Execution.Invocation × Option Nat) :=
  trace.filterMap fun
    | .spawned invocation timeout _ => some (invocation, timeout)
    | _ => none

/-- What is run is among the dealings. -/
theorem Trace.runs_dealings (trace : Trace) : trace.dealings.runs = trace.runs := by
  rw [runs, dealings, List.filterMap_filter, runs]
  refine List.filterMap_congr fun event _ => ?_
  cases event <;> rfl

/-- The configuration and the requests decide what is run. -/
theorem Client.runs_program (launcher : Launcher ρ) (config : Config) (site : Site ρ)
    (requests : List Request) :
    ((Client.program launcher config).dealings site requests).runs =
      requests.map fun request => (config.invocation request, config.timeoutSecs.value) := by
  induction requests generalizing site with
  | nil => rfl
  | cons request rest ih =>
    rw [dealings_program_cons, Trace.runs, List.filterMap_append, List.map_cons]
    exact congrArg (_ :: ·) (ih _)

namespace Session

/-- The requests of a session decide what is run in it. -/
theorem runs_serve (launcher : Launcher ρ) (config : Config) (clock : Nat → String) (input : Input)
    (world : World (Site ρ)) :
    let session := (serve (Client.program launcher config) clock input).run world
    session.trace.runs =
      session.trace.requests.map fun request =>
        (config.invocation request, config.timeoutSecs.value) := by
  intro session
  obtain ⟨_, plays⟩ := serve_plays (Client.program launcher config) clock input world
  rw [← Trace.runs_dealings, plays.dealings_eq, Client.runs_program]

section

variable (config : Config) (clock : Nat → String) (input : Input) (out err : Sink)
  (site : ScriptedSite)

/-- A session leaves its client as its requests leave it, one after the other. -/
theorem client_after_serve (client : Client σ) (world : World σ) :
    let session := (serve client clock input).run world
    session.world.client = client.stateAfter world.client session.trace.requests := by
  obtain ⟨_, plays⟩ := serve_plays client clock input world
  exact plays.state_eq

/-- What is run for a check in a session is run with the scratch file seen to. -/
theorem spawned_check_of_serve {timeout : Option Nat} {found : Bool} :
    let client := Client.program Launcher.scripted config
    let session := (serve client clock input).run ⟨out, err, site⟩
    .spawned (config.invocation .check) timeout found ∈ session.trace →
      .check ∈ session.trace.requests ∧
        found = (ProgramClient.preparedFiles config .check site.files site.directory).pathExists
          site.directory config.scratchPath := by
  intro client session member
  obtain ⟨_, plays⟩ := serve_plays client clock input ⟨out, err, site⟩
  have dealt : .spawned (config.invocation .check) timeout found ∈ session.trace.dealings :=
    List.mem_filter.mpr ⟨member, rfl⟩
  rw [plays.dealings_eq] at dealt
  exact Client.spawned_check config site _ dealt

/-- Other files make no difference to what a session does and runs. -/
theorem serve_congr_files (files' : FileTree) (directory' : Location) :
    let client := Client.program Launcher.scripted config
    let session := (serve client clock input).run ⟨out, err, site⟩
    let other := (serve client clock input).run ⟨out, err, ⟨files', directory', site.launcher⟩⟩
    other.trace.conduct = session.trace.conduct ∧ other.trace.runs = session.trace.runs ∧
      other.result = session.result := by
  intro client session other
  let site' : ScriptedSite := ⟨files', directory', site.launcher⟩
  have replies : client.replies site' input.requests = client.replies site input.requests :=
    (Client.replies_program config site' input.requests).trans
      (Client.replies_program config site input.requests).symm
  obtain ⟨conduct_eq, result_eq⟩ :=
    serve_congr client client clock input out err site' site replies
  have requests_eq : other.trace.requests = session.trace.requests := by
    rw [← Trace.requests_conduct, conduct_eq, Trace.requests_conduct]
  refine ⟨conduct_eq, ?_, result_eq⟩
  have runs' : other.trace.runs = _ :=
    runs_serve Launcher.scripted config clock input ⟨out, err, site'⟩
  have runs : session.trace.runs = _ :=
    runs_serve Launcher.scripted config clock input ⟨out, err, site⟩
  rw [runs', runs, requests_eq]

end

/-- The files of a session.  Every entry that was there is there at the end, with the same content;
an entry that was not is the scratch file of a check, empty, or a directory above it.  Without a
check the files stay as they are, and from the first check on, request by request, they are what
they are at the end.  When the program is run for a check the scratch file is there, unless its path
is refused or something is in the way.  The files have no part in anything else. -/
theorem scratch_file_frame (config : Config) (clock : Nat → String) (input : Input)
    (out err : Sink) (site : ScriptedSite) :
    let client := Client.program Launcher.scripted config
    let session := (serve client clock input).run ⟨out, err, site⟩
    let files := session.world.client.files
    let scratch := Path.ofString ".mypy_cache/__mypy_plugin_temp__.py"
    let path := config.projectDir.value.elim scratch fun project => project.join scratch
    (∀ location entry,
      site.files.entry? location = some entry → files.entry? location = some entry) ∧
    (∀ location entry, files.entry? location = some entry →
      site.files.entry? location = some entry ∨
        (entry = .file [] false ∧ files.locate site.directory path = .ok location) ∨
        (entry = .directory ∧ ∃ parent ∈ path.parents, parent <+: path ∧
          files.locate site.directory parent = .ok location)) ∧
    (.check ∉ session.trace.requests → files = site.files) ∧
    session.world.client = client.stateAfter site session.trace.requests ∧
    (∀ made more, session.trace.requests = made ++ more →
      (client.stateAfter site made).files = if .check ∈ made then files else site.files) ∧
    (∀ timeout found, .spawned (config.invocation .check) timeout found ∈ session.trace →
      found = files.pathExists site.directory path ∧
        (found = true ∨ path.Refused ∨
          ∃ parent ∈ path.parents, files.isBlocked site.directory parent = true)) ∧
    ∀ files' directory',
      let other := (serve client clock input).run ⟨out, err, ⟨files', directory', site.launcher⟩⟩
      other.trace.conduct = session.trace.conduct ∧ other.trace.runs = session.trace.runs ∧
        other.result = session.result := by
  intro client session files scratch path
  have path_eq : path = config.scratchPath := by
    unfold path Config.scratchPath
    cases config.projectDir.value <;> rfl
  clear_value path
  subst path_eq
  have client_eq : session.world.client = client.stateAfter site session.trace.requests :=
    client_after_serve clock input client ⟨out, err, site⟩
  let prepared := ProgramClient.preparedFiles config .check site.files site.directory
  have files_eq : files = if .check ∈ session.trace.requests then prepared else site.files :=
    (congrArg Site.files client_eq).trans (Client.stateAfter_program config site _).2
  obtain ⟨grows, added⟩ := ProgramClient.ensureScratch_frame config site.files site.directory
  refine ⟨?_, ?_, ?_, client_eq, ?_, ?_, serve_congr_files config clock input out err site⟩
  · intro location entry found
    rw [files_eq]
    split
    · exact grows location entry found
    · exact found
  · intro location entry found
    rw [files_eq] at found ⊢
    split at found
    · rename_i checked
      rw [if_pos checked]
      refine (added location entry found).imp_right fun new => new.imp_right ?_
      rintro ⟨kind, parent, member, located⟩
      exact ⟨kind, parent, member, config.isPrefix_of_mem_parents parent member, located⟩
    · exact .inl found
  · intro unchecked
    rw [files_eq, if_neg unchecked]
  · intro made more requests_eq
    rw [(Client.stateAfter_program config site made).2, files_eq, requests_eq]
    by_cases checked : Request.check ∈ made
    · rw [if_pos checked, if_pos checked, if_pos (List.mem_append_left _ checked)]
    · rw [if_neg checked, if_neg checked]
  · intro timeout found member
    obtain ⟨checked, found_eq⟩ :=
      spawned_check_of_serve config clock input out err site member
    rw [files_eq, if_pos checked]
    refine ⟨found_eq, ?_⟩
    rw [found_eq]
    exact ProgramClient.ensureScratch_there config site.files site.directory

end Session

end EditorBridge
