import EditorBridge.Config.Discovery

/-!
# Precedence

Every setting of a configuration is what the command line says about it, else what the chosen file
says, else the default, and it tells which of the three it is from (`discover_eq_ok_iff`).  The file
is the one that the command line names, and then nothing that a search could find matters.
-/
namespace EditorBridge

namespace Setting

/-- Whether a setting is the first of three values that is there, and the text names its place: the
command line, a file and the default. -/
inductive Supplied {α : Type} (given : Option α) (filed : Option (Path × α)) (base : α) :
    Setting α → String → Prop where
  | commandLine (value : α) (isGiven : given = some value) :
      Supplied given filed base ⟨value, .commandLine⟩ "cli"
  | file (path : Path) (value : α) (notGiven : given = none)
      (isFiled : filed = some (path, value)) :
      Supplied given filed base ⟨value, .file path⟩ ("config (" ++ path.text ++ ")")
  | default (notGiven : given = none) (notFiled : filed = none) :
      Supplied given filed base ⟨base, .default⟩ "default"

variable {α : Type}

/-- At most one setting is supplied. -/
theorem Supplied.unique {given : Option α} {filed : Option (Path × α)} {base : α}
    {setting setting' : Setting α} {text text' : String}
    (supplied : Supplied given filed base setting text)
    (supplied' : Supplied given filed base setting' text') : setting = setting' := by
  cases supplied with
  | commandLine value isGiven =>
    cases supplied' with
    | commandLine value' isGiven' =>
      obtain rfl := Option.some.inj (isGiven.symm.trans isGiven')
      rfl
    | file _ _ notGiven => cases isGiven.symm.trans notGiven
    | default notGiven => cases isGiven.symm.trans notGiven
  | file path value notGiven isFiled =>
    cases supplied' with
    | commandLine _ isGiven => cases isGiven.symm.trans notGiven
    | file path' value' _ isFiled' =>
      obtain ⟨rfl, rfl⟩ := Prod.mk.inj (Option.some.inj (isFiled.symm.trans isFiled'))
      rfl
    | default _ notFiled => cases isFiled.symm.trans notFiled
  | default notGiven notFiled =>
    cases supplied' with
    | commandLine _ isGiven => cases isGiven.symm.trans notGiven
    | file _ _ _ isFiled => cases isFiled.symm.trans notFiled
    | default => rfl

/-- To have no value as a value too is to override with an optional value. -/
theorem overrideSome_eq_override (setting : Setting (Option α)) (source : Source)
    (value : Option α) :
    setting.overrideSome source value = setting.override source (value.map some) := by
  cases value <;> rfl

end Setting

namespace Config

/-- What a file sets for a key, with the path of the file. -/
def setBy {α : Type} (file : Option (Path × FileSettings)) (key : FileSettings → Option α) :
    Option (Path × α) :=
  file.bind fun (path, settings) => (key settings).map fun value => (path, value)

/-- Whether every setting is what the command line, the file and the default supply.  A program on
the command line comes without arguments, and only a wish for a verbose log counts there. -/
structure Layered (overrides : Overrides) (file : Option (Path × FileSettings))
    (config : Config) : Prop where
  program : Setting.Supplied overrides.program (setBy file (·.daemon.program)) "dmypy"
    config.program config.program.source.name
  programArgs : Setting.Supplied (overrides.program.map fun _ => [])
    (setBy file (·.daemon.programArgs)) [] config.programArgs config.programArgs.source.name
  statusFile : Setting.Supplied overrides.statusFile (setBy file (·.daemon.statusFile))
    ".mypy_cache/.dmypy.json" config.statusFile config.statusFile.source.name
  timeoutSecs : Setting.Supplied (overrides.timeoutSecs.map some)
    (setBy file fun settings => settings.daemon.timeoutSecs.map some) none
    config.timeoutSecs config.timeoutSecs.source.name
  projectDir : Setting.Supplied (overrides.projectDir.map some)
    (setBy file fun settings => (settings.daemon.projectDir.map Path.ofString).map some) none
    config.projectDir config.projectDir.source.name
  verbose : Setting.Supplied (if overrides.verbose = some true then some true else none)
    (setBy file (·.logging.verbose)) false config.verbose config.verbose.source.name

def ofFile (file : Option (Path × FileSettings)) : Config :=
  file.elim default fun (path, settings) => default.withFile path settings

def merge (overrides : Overrides) (file : Option (Path × FileSettings)) : Config :=
  (ofFile file).withOverrides overrides

/-- What a file sets overrides the default, and what the command line gives overrides both. -/
theorem supplied_override {α : Type} (file : Option (Path × FileSettings))
    (key : FileSettings → Option α) (base : α) (given : Option α) :
    let setting := (file.elim (Setting.byDefault base) fun (path, settings) =>
      (Setting.byDefault base).override (.file path) (key settings)).override .commandLine given
    Setting.Supplied given (setBy file key) base setting setting.source.name := by
  cases given with
  | some value => exact .commandLine value rfl
  | none =>
    cases file with
    | none => exact .default rfl rfl
    | some found =>
      obtain ⟨path, settings⟩ := found
      cases read : key settings with
      | none => simpa [read] using .default rfl (by simp [setBy, read])
      | some value => simpa [read] using .file path value rfl (by simp [setBy, read])

theorem supplied_overrideSome {α : Type} (file : Option (Path × FileSettings))
    (key : FileSettings → Option α) (given : Option α) :
    let setting := (file.elim (Setting.byDefault none) fun (path, settings) =>
      (Setting.byDefault none).overrideSome (.file path) (key settings)).overrideSome
        .commandLine given
    Setting.Supplied (given.map some) (setBy file fun settings => (key settings).map some) none
      setting setting.source.name := by
  simp only [Setting.overrideSome_eq_override]
  exact supplied_override file (fun settings => (key settings).map some) none (given.map some)

theorem filter_id_eq (wish : Option Bool) :
    wish.filter id = if wish = some true then some true else none := by
  match wish with
  | none | some false | some true => rfl

theorem layered_merge (overrides : Overrides) (file : Option (Path × FileSettings)) :
    Layered overrides file (merge overrides file) := by
  have program := supplied_override file (·.daemon.program) "dmypy" overrides.program
  have programArgs := supplied_override file (·.daemon.programArgs) []
    (overrides.program.map fun _ => [])
  have statusFile := supplied_override file (·.daemon.statusFile) ".mypy_cache/.dmypy.json"
    overrides.statusFile
  have timeoutSecs := supplied_overrideSome file (·.daemon.timeoutSecs) overrides.timeoutSecs
  have projectDir := supplied_overrideSome file (·.daemon.projectDir.map Path.ofString)
    overrides.projectDir
  have verbose := supplied_override file (·.logging.verbose) false (overrides.verbose.filter id)
  cases file <;>
    · refine ⟨program, programArgs, statusFile, timeoutSecs, projectDir, ?_⟩
      rw [← filter_id_eq]
      exact verbose

/-- One configuration has given layers: the one they are merged into. -/
theorem layered_iff {overrides : Overrides} {file : Option (Path × FileSettings)}
    {config : Config} : Layered overrides file config ↔ config = merge overrides file := by
  constructor
  · intro layered
    have merged := layered_merge overrides file
    have program := layered.program.unique merged.program
    have programArgs := layered.programArgs.unique merged.programArgs
    have statusFile := layered.statusFile.unique merged.statusFile
    have timeoutSecs := layered.timeoutSecs.unique merged.timeoutSecs
    have projectDir := layered.projectDir.unique merged.projectDir
    have verbose := layered.verbose.unique merged.verbose
    generalize merge overrides file = whole at *
    cases config
    cases whole
    simp_all
  · rintro rfl
    exact layered_merge overrides file

/-- Whether a file is the one to use, with its settings: the one that the command line names, else
the one found from the start upwards. -/
inductive Chosen (tree : FileTree) (directory : Location) (start : Path) (named : Option Path) :
    Option (Path × FileSettings) → Prop where
  | named (path : Path) (settings : FileSettings) (isNamed : named = some path)
      (isRead : readFile tree directory path = .ok settings) :
      Chosen tree directory start named (some (path, settings))
  | found (path : Path) (settings : FileSettings) (notNamed : named = none)
      (isFound : search tree directory start = some path)
      (isRead : readFile tree directory path = .ok settings) :
      Chosen tree directory start named (some (path, settings))
  | none (notNamed : named = none) (notFound : search tree directory start = none) :
      Chosen tree directory start named none

variable {tree : FileTree} {directory : Location} {start : Path} {overrides : Overrides}
  {config : Config}

theorem read_of_readFile {path : Path} {settings : FileSettings}
    (isRead : readFile tree directory path = .ok settings) :
    ∃ content, tree.read directory path = .ok content := by
  unfold readFile at isRead
  split at isRead
  · cases isRead
  · exact ⟨_, ‹_›⟩

/-- What can be read is there. -/
theorem pathExists_of_readFile {path : Path} {settings : FileSettings}
    (isRead : readFile tree directory path = .ok settings) :
    tree.pathExists directory path = true := by
  obtain ⟨content, isRead⟩ := read_of_readFile isRead
  unfold FileTree.read at isRead
  unfold FileTree.pathExists
  cases found : tree.find directory path with
  | ok entry => rfl
  | error error =>
    rw [found] at isRead
    cases isRead

theorem loadChosen_some_eq_ok_iff {path : Path} {base : Config} :
    loadChosen tree directory (some path) = .ok base ↔
      ∃ settings, readFile tree directory path = .ok settings ∧
        base = ofFile (some (path, settings)) := by
  rw [loadChosen, loadFile]
  cases readFile tree directory path with
  | error error =>
    constructor
    · intro loaded
      cases loaded
    · rintro ⟨settings, isRead, _⟩
      cases isRead
  | ok settings =>
    constructor
    · intro loaded
      exact ⟨settings, rfl, (Except.ok.inj loaded).symm⟩
    · rintro ⟨_, isRead, rfl⟩
      obtain rfl := Except.ok.inj isRead
      rfl

/-- What is loaded is the file to use, or the default if there is none. -/
theorem chooseFile_load_iff {base : Config} :
    (∃ chosen, chooseFile tree directory start overrides = .ok chosen ∧
        loadChosen tree directory chosen = .ok base) ↔
      ∃ file, Chosen tree directory start overrides.configPath file ∧ base = ofFile file := by
  constructor
  · rintro ⟨chosen, isChosen, isLoaded⟩
    unfold chooseFile at isChosen
    split at isChosen
    · rename_i path isNamed
      split at isChosen
      · obtain rfl := Except.ok.inj isChosen
        obtain ⟨settings, isRead, rfl⟩ := loadChosen_some_eq_ok_iff.mp isLoaded
        exact ⟨_, .named path settings isNamed isRead, rfl⟩
      · cases isChosen
    · rename_i notNamed
      obtain rfl := Except.ok.inj isChosen
      cases searched : search tree directory start with
      | none =>
        rw [searched] at isLoaded
        exact ⟨none, .none notNamed searched, (Except.ok.inj isLoaded).symm⟩
      | some path =>
        rw [searched] at isLoaded
        obtain ⟨settings, isRead, rfl⟩ := loadChosen_some_eq_ok_iff.mp isLoaded
        exact ⟨_, .found path settings notNamed searched isRead, rfl⟩
  · rintro ⟨_, ⟨path, settings, isNamed, isRead⟩ | ⟨path, settings, notNamed, isFound, isRead⟩ |
      ⟨notNamed, notFound⟩, rfl⟩
    · refine ⟨some path, ?_, loadChosen_some_eq_ok_iff.mpr ⟨settings, isRead, rfl⟩⟩
      rw [chooseFile, isNamed]
      exact if_pos (pathExists_of_readFile isRead)
    · refine ⟨some path, ?_, loadChosen_some_eq_ok_iff.mpr ⟨settings, isRead, rfl⟩⟩
      rw [chooseFile, notNamed]
      exact congrArg Except.ok isFound
    · refine ⟨none, ?_, rfl⟩
      rw [chooseFile, notNamed]
      exact congrArg Except.ok notFound

/-- The stages of finding a configuration: choose the file, load it, add what the command line says,
and judge the result. -/
theorem discover_stages :
    discover tree directory start overrides = .ok config ↔
      ∃ base, (∃ chosen, chooseFile tree directory start overrides = .ok chosen ∧
        loadChosen tree directory chosen = .ok base) ∧
          config = base.withOverrides overrides ∧ fault? tree directory config = none := by
  unfold discover
  cases chooseFile tree directory start overrides with
  | error error => simp [bind, Except.bind]
  | ok chosen =>
    cases loaded : loadChosen tree directory chosen with
    | error error => simp [bind, Except.bind, loaded]
    | ok base =>
      simp only [bind, Except.bind, loaded, Except.ok.injEq, exists_eq_left', pure, Except.pure,
        throw, throwThe, MonadExceptOf.throw]
      split <;> rename_i judged
      · simp only [reduceCtorEq, false_iff, not_and]
        rintro rfl
        simp [judged]
      · rw [Except.ok.injEq, eq_comm]
        refine ⟨?_, And.left⟩
        rintro rfl
        exact ⟨rfl, judged⟩

/-- A configuration is found exactly if the file to use can be read, if there is one, and all layers
together have no fault. -/
theorem discover_eq_ok_iff :
    discover tree directory start overrides = .ok config ↔
      ∃ file, Chosen tree directory start overrides.configPath file ∧
        Layered overrides file config ∧ fault? tree directory config = none := by
  simp only [discover_stages, chooseFile_load_iff, layered_iff]
  -- What is loaded is `ofFile` of the file, and `merge` adds the command line to that.
  constructor
  · rintro ⟨_, ⟨file, chosen, rfl⟩, merged, sound⟩
    exact ⟨file, chosen, merged, sound⟩
  · rintro ⟨file, chosen, merged, sound⟩
    exact ⟨_, ⟨file, chosen, rfl⟩, merged, sound⟩

/-- A configuration is judged by its values, and by whether its project directory is one. -/
theorem fault?_congr {tree' : FileTree}
    (same : ∀ project, config.projectDir.value = some project →
      tree'.isDirectory directory project = tree.isDirectory directory project) :
    fault? tree' directory config = fault? tree directory config := by
  unfold fault?
  cases isSet : config.projectDir.value with
  | none => rfl
  | some project => simp only [same project isSet]

theorem readFile_congr {tree' : FileTree} {path : Path}
    (same : tree'.read directory path = tree.read directory path) :
    readFile tree' directory path = readFile tree directory path := by
  rw [readFile, readFile, same]

/-- Whether a listing tells every key that a file can set once, in ascending order, with its value
in a configuration and the source of the value in words. -/
structure Listed (listing : List (String × String × String)) (config : Config) : Prop where
  ascending : (listing.map Prod.fst).Pairwise (· < ·)
  keys : ∀ key, key ∈ listing.map Prod.fst ↔ key ∈ Schema.daemonKeys ++ Schema.loggingKeys
  program : ("program", config.program.value, config.program.source.name) ∈ listing
  programArgs : ("program_args", " ".intercalate config.programArgs.value,
    config.programArgs.source.name) ∈ listing
  projectDir : ("project_dir", config.projectDir.value.elim "." Path.text,
    config.projectDir.source.name) ∈ listing
  statusFile : ("status_file", config.statusFile.value, config.statusFile.source.name) ∈ listing
  timeoutSecs : ("timeout_secs", config.timeoutSecs.value.elim "none" toString,
    config.timeoutSecs.source.name) ∈ listing
  verbose : ("verbose", toString config.verbose.value, config.verbose.source.name) ∈ listing

theorem listed_effective (config : Config) : Listed config.effective config where
  ascending := by
    simp only [effective, List.map_cons, List.map_nil]
    decide
  keys key := by
    refine List.Perm.mem_iff ?_
    simp only [effective, List.map_cons, List.map_nil]
    decide
  program := by simp [effective]
  programArgs := by simp [effective]
  projectDir := by simp [effective]
  statusFile := by simp [effective]
  timeoutSecs := by simp [effective]
  verbose := by simp [effective]

/-- Every setting of a configuration that is found is what the command line, the chosen file or the
default supplies, in this order, and it is listed with its source.  If the command line names the
file, neither the start nor anything else in the tree matters, except for the project directory. -/
theorem discover_layered (found : discover tree directory start overrides = .ok config) :
    (∃ file, Chosen tree directory start overrides.configPath file ∧
      Layered overrides file config) ∧
    Listed config.effective config ∧
    ∀ path, overrides.configPath = some path → ∀ (tree' : FileTree) (start' : Path),
      tree'.read directory path = tree.read directory path →
      (∀ project, config.projectDir.value = some project →
        tree'.isDirectory directory project = tree.isDirectory directory project) →
      discover tree' directory start' overrides = .ok config := by
  obtain ⟨file, chosen, layered, sound⟩ := discover_eq_ok_iff.mp found
  refine ⟨⟨file, chosen, layered⟩, listed_effective config, ?_⟩
  intro path isNamed tree' start' sameFile sameProject
  -- The file is chosen by its name alone, so the other tree gives the same layers to judge.
  have chosen' : Chosen tree' directory start' overrides.configPath file := by
    obtain ⟨path', settings, isNamed', isRead⟩ | ⟨_, _, notNamed, _⟩ | ⟨notNamed, _⟩ := chosen
    · obtain rfl := Option.some.inj (isNamed.symm.trans isNamed')
      exact .named path settings isNamed ((readFile_congr sameFile).trans isRead)
    · cases isNamed.symm.trans notNamed
    · cases isNamed.symm.trans notNamed
  exact discover_eq_ok_iff.mpr
    ⟨file, chosen', layered, (fault?_congr sameProject).trans sound⟩

/-- A file that the command line names, with arguments that do not count beside another program and
a wish for a verbose log that does; a second tree has a file that a search finds. -/
theorem discover_layered_by_name :
    let named := Path.ofString "/bridge.toml"
    let content := "daemon.program_args = [\"run\"]\ndaemon.project_dir = \"/work\"\n"
      ++ "logging.verbose = true\n"
    let tree : FileTree := ⟨[([Utf8.encode "work"], .directory),
      ([Utf8.encode "bridge.toml"], .file (Utf8.encode content) false)]⟩
    let tree' := tree.put [Utf8.encode "work", Utf8.encode fileName] (.file [] false)
    let overrides : Overrides := ⟨some named, some "dmypy", none, none, some 30, some false⟩
    let config : Config :=
      { program := ⟨"dmypy", .commandLine⟩
        programArgs := ⟨[], .commandLine⟩
        statusFile := ⟨".mypy_cache/.dmypy.json", .default⟩
        timeoutSecs := ⟨some 30, .commandLine⟩
        projectDir := ⟨some (Path.ofString "/work"), .file named⟩
        verbose := ⟨true, .file named⟩ }
    discover tree [] (Path.ofString "/") overrides = .ok config ∧
      (∃ file, Chosen tree [] (Path.ofString "/") overrides.configPath file ∧
        Layered overrides file config) ∧
      Listed config.effective config ∧
      (search tree' [] (Path.ofString "/work")).isSome = true ∧
      discover tree' [] (Path.ofString "/work") overrides = .ok config := by
  intro named content tree tree' overrides config
  have read : (discover tree [] (Path.ofString "/") overrides).toOption = some config := by
    decide +kernel
  have found : discover tree [] (Path.ofString "/") overrides = .ok config := by
    revert read
    cases discover tree [] (Path.ofString "/") overrides <;> simp [Except.toOption]
  obtain ⟨chosen, listed, named_only⟩ := discover_layered found
  refine ⟨found, chosen, listed, by decide +kernel, ?_⟩
  refine named_only named rfl tree' (Path.ofString "/work") (by rfl) ?_
  intro project isSet
  obtain rfl : Path.ofString "/work" = project := Option.some.inj isSet
  decide +kernel

end Config

end EditorBridge
