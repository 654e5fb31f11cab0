import EditorBridge.Program.Run
import EditorBridge.Proofs.Config.Precedence
import EditorBridge.Proofs.Text.Trimming

/-!
# Outcomes of discovery

Discovery ends in one of four ways (`Discovers`): the file that the command line names is missing,
the chosen file is unusable, the merged configuration has a fault, or it is sound.  A file is judged
before its settings are merged, and nothing but what is left of them after that is judged later
(`discovery_outcome`).
-/
namespace EditorBridge

namespace Config

variable {tree : FileTree} {directory : Location} {start path : Path} {overrides : Overrides}
  {config : Config} {error : ConfigError}

/-- Whether a file is unusable, and why: it cannot be read, is not text in UTF-8, is not TOML, or
has not the form of a configuration. -/
inductive Unusable (tree : FileTree) (directory : Location) (path : Path) : ConfigError → Prop where
  | unread (error : Host.SystemError) (failed : tree.read directory path = .error error) :
      Unusable tree directory path
        (.during ("Failed to read config file " ++ path.text) (.unreadable error))
  | notText (content : Bytes) (isRead : tree.read directory path = .ok content)
      (notText : Utf8.decode? content = none) :
      Unusable tree directory path
        (.during ("Failed to read config file " ++ path.text) .notText)
  | notToml (content : Bytes) (text : String) (isRead : tree.read directory path = .ok content)
      (isText : Utf8.decode? content = some text) (notToml : Toml.Document.parse? text = none) :
      Unusable tree directory path
        (.during ("Failed to parse TOML config file: " ++ path.text) .malformed)
  | misfit (content : Bytes) (text : String) (document : Toml.Table)
      (isRead : tree.read directory path = .ok content)
      (isText : Utf8.decode? content = some text)
      (isToml : Toml.Document.parse? text = some document)
      (misfit : Schema.settings? document = none) :
      Unusable tree directory path
        (.during ("Failed to parse TOML config file: " ++ path.text) .malformed)

theorem readFile_eq_error_iff :
    readFile tree directory path = .error error ↔ Unusable tree directory path error := by
  constructor
  · intro failed
    unfold readFile at failed
    split at failed
    · rename_i error unread
      obtain rfl := Except.error.inj failed
      exact .unread error unread
    · rename_i content isRead
      split at failed
      · rename_i notText
        obtain rfl := Except.error.inj failed
        exact .notText content isRead notText
      · rename_i text isText
        split at failed
        · rename_i malformed
          obtain rfl := Except.error.inj failed
          cases parsed : Toml.Document.parse? text with
          | none => exact .notToml content text isRead isText parsed
          | some document =>
            rw [parsed] at malformed
            exact .misfit content text document isRead isText parsed malformed
        · cases failed
  · intro unusable
    cases unusable with
    | unread error failed => simp only [readFile, failed]
    | notText content isRead notText => simp only [readFile, isRead, notText]
    | notToml content text isRead isText notToml =>
      simp only [readFile, isRead, isText, notToml]
      rfl
    | misfit content text document isRead isText isToml misfit =>
      simp only [readFile, isRead, isText, isToml, Option.bind_eq_bind, Option.bind_some, misfit]

/-- Whether a file is to be used: the one that the command line names, if something is there, or if
it names none the one that the search finds. -/
inductive Selected (tree : FileTree) (directory : Location) (start : Path) :
    Option Path → Path → Prop where
  | named (path : Path) (isThere : tree.pathExists directory path = true) :
      Selected tree directory start (some path) path
  | found (path : Path) (isFound : search tree directory start = some path) :
      Selected tree directory start none path

/-- What a configuration that is served satisfies. -/
structure Sound (tree : FileTree) (directory : Location) (config : Config) : Prop where
  program : Text.trimmed config.program.value ≠ ""
  statusFile : Text.trimmed config.statusFile.value ≠ ""
  timeoutSecs : ∀ seconds, config.timeoutSecs.value = some seconds → 0 < seconds ∧ seconds ≤ 3600
  projectDir : ∀ path, config.projectDir.value = some path → tree.isDirectory directory path = true

/-- Whether a configuration is not sound, and the error for its first fault. -/
inductive Faulty (tree : FileTree) (directory : Location) (config : Config) :
    ConfigError → Prop where
  | program (blank : Text.trimmed config.program.value = "") :
      Faulty tree directory config (.invalidValue "program" "must not be empty")
  | statusFile (program : Text.trimmed config.program.value ≠ "")
      (blank : Text.trimmed config.statusFile.value = "") :
      Faulty tree directory config (.invalidValue "status_file" "must not be empty")
  | noTime (program : Text.trimmed config.program.value ≠ "")
      (statusFile : Text.trimmed config.statusFile.value ≠ "")
      (none : config.timeoutSecs.value = some 0) :
      Faulty tree directory config (.invalidValue "timeout_secs" "must be greater than 0")
  | tooLong (program : Text.trimmed config.program.value ≠ "")
      (statusFile : Text.trimmed config.statusFile.value ≠ "") (seconds : Nat)
      (isSet : config.timeoutSecs.value = some seconds) (long : 3600 < seconds) :
      Faulty tree directory config
        (.invalidValue "timeout_secs" "exceeds maximum limit of 3600 seconds (1 hour)")
  | projectDir (program : Text.trimmed config.program.value ≠ "")
      (statusFile : Text.trimmed config.statusFile.value ≠ "")
      (timeoutSecs : ∀ seconds, config.timeoutSecs.value = some seconds →
        0 < seconds ∧ seconds ≤ 3600)
      (path : Path) (isSet : config.projectDir.value = some path)
      (notDirectory : tree.isDirectory directory path = false) :
      Faulty tree directory config (.notFound path.text)

theorem sound_or_faulty (tree : FileTree) (directory : Location) (config : Config) :
    Sound tree directory config ∨ ∃ error, Faulty tree directory config error := by
  by_cases program : Text.trimmed config.program.value = ""
  · exact .inr ⟨_, .program program⟩
  by_cases statusFile : Text.trimmed config.statusFile.value = ""
  · exact .inr ⟨_, .statusFile program statusFile⟩
  by_cases none : config.timeoutSecs.value = some 0
  · exact .inr ⟨_, .noTime program statusFile none⟩
  by_cases long : ∃ seconds, config.timeoutSecs.value = some seconds ∧ 3600 < seconds
  · obtain ⟨seconds, isSet, long⟩ := long
    exact .inr ⟨_, .tooLong program statusFile seconds isSet long⟩
  have timeoutSecs : ∀ seconds, config.timeoutSecs.value = some seconds →
      0 < seconds ∧ seconds ≤ 3600 := by
    intro seconds isSet
    refine ⟨Nat.pos_of_ne_zero ?_, Nat.le_of_not_lt fun less => long ⟨seconds, isSet, less⟩⟩
    rintro rfl
    exact none isSet
  by_cases notDirectory : ∃ path, config.projectDir.value = some path ∧
      tree.isDirectory directory path = false
  · obtain ⟨path, isSet, notDirectory⟩ := notDirectory
    exact .inr ⟨_, .projectDir program statusFile timeoutSecs path isSet notDirectory⟩
  refine .inl ⟨program, statusFile, timeoutSecs, fun path isSet => ?_⟩
  by_contra notThere
  exact notDirectory ⟨path, isSet, by simpa using notThere⟩

/-- What is judged last, when there is no fault before it. -/
theorem fault?_of_timeoutSecs (program : Text.trimmed config.program.value ≠ "")
    (statusFile : Text.trimmed config.statusFile.value ≠ "")
    (timeoutSecs : ∀ seconds, config.timeoutSecs.value = some seconds →
      0 < seconds ∧ seconds ≤ 3600) :
    fault? tree directory config = config.projectDir.value.bind fun path =>
      if tree.isDirectory directory path then none else some (.notFound path.text) := by
  have positive : config.timeoutSecs.value ≠ some 0 := fun none =>
    absurd (timeoutSecs 0 none).1 (Nat.lt_irrefl 0)
  have short : config.timeoutSecs.value.any (maximalTimeout < ·) = false := by
    cases isSet : config.timeoutSecs.value with
    | none => rfl
    | some seconds => exact decide_eq_false (Nat.not_lt.mpr (timeoutSecs seconds isSet).2)
  simp only [fault?, Text.isBlank_iff, program, statusFile, positive, short, if_false]
  cases config.projectDir.value <;> rfl

theorem fault?_of_faulty (faulty : Faulty tree directory config error) :
    fault? tree directory config = some error := by
  cases faulty with
  | program blank => simp [fault?, Text.isBlank_iff, blank]
  | statusFile program blank => simp [fault?, Text.isBlank_iff, program, blank]
  | noTime program statusFile none => simp [fault?, Text.isBlank_iff, program, statusFile, none]
  | tooLong program statusFile seconds isSet long =>
    have positive : seconds ≠ 0 := by omega
    simp [fault?, Text.isBlank_iff, program, statusFile, isSet, maximalTimeout, long, positive]
  | projectDir program statusFile timeoutSecs path isSet notDirectory =>
    rw [fault?_of_timeoutSecs program statusFile timeoutSecs, isSet, Option.bind_some,
      notDirectory, if_neg Bool.false_ne_true]

theorem fault?_of_sound (sound : Sound tree directory config) :
    fault? tree directory config = none := by
  rw [fault?_of_timeoutSecs sound.program sound.statusFile sound.timeoutSecs]
  cases isSet : config.projectDir.value with
  | none => rfl
  | some path => rw [Option.bind_some, if_pos (sound.projectDir path isSet)]

/-- A configuration has no fault exactly if it is sound. -/
theorem fault?_eq_none_iff : fault? tree directory config = none ↔ Sound tree directory config := by
  refine ⟨fun none => ?_, fault?_of_sound⟩
  obtain sound | ⟨error, faulty⟩ := sound_or_faulty tree directory config
  · exact sound
  · cases none.symm.trans (fault?_of_faulty faulty)

/-- How discovery ends.  A file that the command line names must be there; then the file to use must
be usable, whatever else the command line says; then the merged configuration is judged. -/
inductive Discovers (tree : FileTree) (directory : Location) (start : Path)
    (overrides : Overrides) : Except ConfigError Config → Prop where
  | missing (path : Path) (isNamed : overrides.configPath = some path)
      (notThere : tree.pathExists directory path = false) :
      Discovers tree directory start overrides (.error (.notFound path.text))
  | unloaded (path : Path) (cause : ConfigError)
      (selected : Selected tree directory start overrides.configPath path)
      (unusable : Unusable tree directory path cause) :
      Discovers tree directory start overrides
        (.error (.during ("Failed to load config file: " ++ path.text) cause))
  | faulty (file : Option (Path × FileSettings)) (config : Config) (error : ConfigError)
      (chosen : Chosen tree directory start overrides.configPath file)
      (layered : Layered overrides file config) (faulty : Faulty tree directory config error) :
      Discovers tree directory start overrides (.error error)
  | sound (file : Option (Path × FileSettings)) (config : Config)
      (chosen : Chosen tree directory start overrides.configPath file)
      (layered : Layered overrides file config) (sound : Sound tree directory config) :
      Discovers tree directory start overrides (.ok config)

theorem chooseFile_of_selected
    (selected : Selected tree directory start overrides.configPath path) :
    chooseFile tree directory start overrides = .ok (some path) := by
  unfold chooseFile
  generalize overrides.configPath = named at selected ⊢
  cases selected with
  | named _ isThere => exact if_pos isThere
  | found _ isFound => exact congrArg Except.ok isFound

/-- Every file to use is loaded into what it sets. -/
theorem exists_loaded {file : Option (Path × FileSettings)}
    (chosen : Chosen tree directory start overrides.configPath file) :
    ∃ found, chooseFile tree directory start overrides = .ok found ∧
      loadChosen tree directory found = .ok (ofFile file) :=
  chooseFile_load_iff.mpr ⟨file, chosen, rfl⟩

/-- A way for discovery to end is the way it ends. -/
theorem discover_of_discovers {result : Except ConfigError Config}
    (discovers : Discovers tree directory start overrides result) :
    discover tree directory start overrides = result := by
  cases discovers with
  | missing path isNamed notThere =>
    have failed : chooseFile tree directory start overrides = .error (.notFound path.text) := by
      rw [chooseFile, isNamed]
      exact if_neg (by simp [notThere])
    rw [discover, failed]
    rfl
  | unloaded path cause selected unusable =>
    have failed : loadChosen tree directory (some path) =
        .error (.during ("Failed to load config file: " ++ path.text) cause) := by
      rw [loadChosen, loadFile, readFile_eq_error_iff.mpr unusable]
      rfl
    rw [discover, chooseFile_of_selected selected]
    change (loadChosen tree directory (some path) >>= _) = _
    rw [failed]
    rfl
  | faulty file config error chosen layered faulty =>
    obtain ⟨found, isChosen, isLoaded⟩ := exists_loaded chosen
    obtain rfl := layered_iff.mp layered
    have judged : fault? tree directory ((ofFile file).withOverrides overrides) = some error :=
      fault?_of_faulty faulty
    rw [discover, isChosen]
    change (loadChosen tree directory found >>= _) = _
    rw [isLoaded]
    simp only [bind, Except.bind, judged]
    rfl
  | sound file config chosen layered sound =>
    exact discover_eq_ok_iff.mpr ⟨file, chosen, layered, fault?_of_sound sound⟩

/-- Once the file to use is read, discovery ends by judging the merged configuration. -/
theorem discovers_of_chosen {file : Option (Path × FileSettings)}
    (chosen : Chosen tree directory start overrides.configPath file) :
    ∃ result, Discovers tree directory start overrides result := by
  have layered := layered_merge overrides file
  obtain sound | ⟨error, faulty⟩ := sound_or_faulty tree directory (merge overrides file)
  · exact ⟨_, .sound file _ chosen layered sound⟩
  · exact ⟨_, .faulty file _ error chosen layered faulty⟩

/-- Discovery ends in one of the ways. -/
theorem exists_discovers (tree : FileTree) (directory : Location) (start : Path)
    (overrides : Overrides) : ∃ result, Discovers tree directory start overrides result := by
  have ofSelected (path : Path) (selected : Selected tree directory start overrides.configPath path)
      (chosen : ∀ settings, readFile tree directory path = .ok settings →
        Chosen tree directory start overrides.configPath (some (path, settings))) :
      ∃ result, Discovers tree directory start overrides result := by
    cases isRead : readFile tree directory path with
    | error cause => exact ⟨_, .unloaded path cause selected (readFile_eq_error_iff.mp isRead)⟩
    | ok settings => exact discovers_of_chosen (chosen settings isRead)
  cases isNamed : overrides.configPath with
  | some path =>
    by_cases isThere : tree.pathExists directory path = true
    · rw [isNamed] at ofSelected
      exact ofSelected path (.named path isThere) fun settings => .named path settings rfl
    · exact ⟨_, .missing path isNamed (by simpa using isThere)⟩
  | none =>
    cases isFound : search tree directory start with
    | some path =>
      rw [isNamed] at ofSelected
      exact ofSelected path (.found path isFound) fun settings => .found path settings rfl isFound
    | none => exact discovers_of_chosen (Chosen.none isNamed isFound)

theorem discover_eq_iff {result : Except ConfigError Config} :
    discover tree directory start overrides = result ↔
      Discovers tree directory start overrides result := by
  refine ⟨fun ended => ?_, discover_of_discovers⟩
  obtain ⟨result', discovers⟩ := exists_discovers tree directory start overrides
  rwa [← ended, discover_of_discovers discovers]

/-- What is served is a configuration that was found. -/
theorem exists_discover_of_serving {ρ : Type} {site : Site ρ} {arguments : List Bytes}
    (serving : Program.begin site arguments = .serving config) :
    ∃ overrides, discover site.files site.directory (Program.pathOf site.directory) overrides =
      .ok config := by
  unfold Program.begin at serving
  split at serving
  · cases serving
  · cases serving
  · cases serving
  · rename_i flags _
    split at serving
    · cases serving
    · rename_i found
      split at serving
      · cases serving
      · cases serving
        exact ⟨flags.overrides, found⟩

/-- Whether two files set the same, except for keys that the command line gives. -/
structure SameUnlessGiven (overrides : Overrides) (settings settings' : FileSettings) : Prop where
  program : overrides.program = none → settings'.daemon.program = settings.daemon.program
  programArgs : overrides.program = none →
    settings'.daemon.programArgs = settings.daemon.programArgs
  statusFile : overrides.statusFile = none →
    settings'.daemon.statusFile = settings.daemon.statusFile
  timeoutSecs : overrides.timeoutSecs = none →
    settings'.daemon.timeoutSecs = settings.daemon.timeoutSecs
  projectDir : overrides.projectDir = none →
    settings'.daemon.projectDir = settings.daemon.projectDir
  verbose : overrides.verbose ≠ some true →
    settings'.logging.verbose = settings.logging.verbose

/-- A value that the command line gives hides what is below it. -/
theorem override_eq_of_given {α : Type} {setting setting' : Setting α} {given : Option α}
    (same : given = none → setting' = setting) :
    setting'.override .commandLine given = setting.override .commandLine given := by
  cases given with
  | none => exact same rfl
  | some value => rfl

/-- What the command line gives makes up for all differences between two files. -/
theorem merge_eq_of_sameUnlessGiven {settings settings' : FileSettings}
    (same : SameUnlessGiven overrides settings settings') (path : Path) :
    merge overrides (some (path, settings')) = merge overrides (some (path, settings)) := by
  have verbose : overrides.verbose.filter id = none → overrides.verbose ≠ some true := by
    rintro notWished wished
    simp [wished] at notWished
  simp only [merge, ofFile, Option.elim_some, withOverrides, withFile,
    Setting.overrideSome_eq_override, Config.mk.injEq]
  refine ⟨override_eq_of_given fun none => ?_, override_eq_of_given fun none => ?_,
    override_eq_of_given fun none => ?_, override_eq_of_given fun none => ?_,
    override_eq_of_given fun none => ?_, override_eq_of_given fun none => ?_⟩
  · rw [same.program none]
  · rw [same.programArgs (Option.map_eq_none_iff.mp none)]
  · rw [same.statusFile none]
  · rw [same.timeoutSecs (Option.map_eq_none_iff.mp none)]
  · rw [same.projectDir (Option.map_eq_none_iff.mp none)]
  · rw [same.verbose (verbose none)]

/-- Discovery fails first if the file that the command line names is missing, then if the file to
use is unusable, with a chain of three texts, and then by the first fault of the merged values;
otherwise it succeeds, so that every configuration that is served is sound.  A value of the file
that the command line hides is never at fault. -/
theorem discovery_outcome (tree : FileTree) (directory : Location) (start : Path)
    (overrides : Overrides) :
    (∀ result, discover tree directory start overrides = result ↔
      Discovers tree directory start overrides result) ∧
    (∀ path cause, Unusable tree directory path cause →
      let error := ConfigError.during ("Failed to load config file: " ++ path.text) cause
      error.message = "Failed to load config file: " ++ path.text ∧ error.chain.length = 3) ∧
    (∀ config, discover tree directory start overrides = .ok config →
      Sound tree directory config) ∧
    (∀ path settings settings' config,
      Chosen tree directory start overrides.configPath (some (path, settings)) →
      SameUnlessGiven overrides settings settings' →
      Layered overrides (some (path, settings')) config → Sound tree directory config →
      discover tree directory start overrides = .ok config) ∧
    (∀ (ρ : Type) (site : Site ρ) (arguments : List Bytes) (config : Config),
      Program.begin site arguments = .serving config →
      Sound site.files site.directory config) := by
  have isSound {tree : FileTree} {directory : Location} {start : Path} {overrides : Overrides}
      {config : Config} (found : discover tree directory start overrides = .ok config) :
      Sound tree directory config := by
    obtain ⟨_, _, _, faultless⟩ := discover_eq_ok_iff.mp found
    exact fault?_eq_none_iff.mp faultless
  refine ⟨fun result => discover_eq_iff, ?_, fun config => isSound, ?_, ?_⟩
  · intro path cause unusable error
    cases unusable <;> exact ⟨rfl, rfl⟩
  · intro path settings settings' config chosen same layered sound
    obtain rfl := layered_iff.mp layered
    rw [merge_eq_of_sameUnlessGiven same] at sound ⊢
    exact discover_of_discovers (.sound _ _ chosen (layered_merge _ _) sound)
  · intro ρ site arguments config serving
    obtain ⟨overrides, found⟩ := exists_discover_of_serving serving
    exact isSound found

/-- A timeout in the file that would be a fault, hidden by one on the command line; beside it, a
file that is no TOML. -/
theorem discovery_outcome_of_hidden_fault :
    let path := Path.ofString "/bridge.toml"
    let broken := Path.ofString "/broken.toml"
    let tree : FileTree :=
      ⟨[([Utf8.encode "bridge.toml"], .file (Utf8.encode "daemon.timeout_secs = 0\n") false),
        ([Utf8.encode "broken.toml"], .file (Utf8.encode "daemon = [\n") false)]⟩
    let settings : FileSettings := ⟨{ DaemonSection.empty with timeoutSecs := some 0 }, .empty⟩
    let overrides : Overrides := ⟨some path, none, none, none, some 30, some false⟩
    let config : Config := { default with timeoutSecs := ⟨some 30, .commandLine⟩ }
    let start := Program.pathOf []
    let unparsed :=
      ConfigError.during ("Failed to parse TOML config file: " ++ broken.text) .malformed
    let unloaded := ConfigError.during ("Failed to load config file: " ++ broken.text) unparsed
    let arguments := ["--config", "/bridge.toml", "--timeout=30"].map Utf8.encode
    Chosen tree [] start overrides.configPath (some (path, settings)) ∧
      SameUnlessGiven overrides settings .empty ∧ Layered overrides (some (path, .empty)) config ∧
      Sound tree [] config ∧ discover tree [] start overrides = .ok config ∧
      Program.begin (⟨tree, [], ()⟩ : Site Unit) arguments = .serving config ∧
      Unusable tree [] broken unparsed ∧ unloaded.chain.length = 3 ∧
      discover tree [] start { overrides with configPath := some broken } = .error unloaded := by
  intro path broken tree settings overrides config start unparsed unloaded arguments
  obtain ⟨-, told, -, hidden, served⟩ := discovery_outcome tree [] start overrides
  have chosen : Chosen tree [] start overrides.configPath (some (path, settings)) :=
    .named path settings rfl (by decide +kernel)
  have same : SameUnlessGiven overrides settings .empty := by
    constructor <;> simp [overrides, settings, FileSettings.empty, DaemonSection.empty]
  have layered : Layered overrides (some (path, .empty)) config :=
    layered_iff.mpr (by decide +kernel)
  have faultless : Sound tree [] config := fault?_eq_none_iff.mp (by decide +kernel)
  have found := hidden path settings .empty config chosen same layered faultless
  have read : CommandLine.Flags.read arguments =
      .ok { CommandLine.Flags.none with config := some path, timeout := some 30 } := by
    decide +kernel
  have serving : Program.begin (⟨tree, [], ()⟩ : Site Unit) arguments = .serving config := by
    have found' : discover tree [] (Program.pathOf []) (CommandLine.Flags.overrides
        { CommandLine.Flags.none with config := some path, timeout := some 30 }) = .ok config :=
      found
    simp only [Program.begin, read, found']
    rfl
  have unusable : Unusable tree [] broken unparsed := readFile_eq_error_iff.mp (by decide +kernel)
  have unloads := (discovery_outcome tree [] start { overrides with configPath := some broken }).1
    (.error unloaded)
  exact ⟨chosen, same, layered, served _ _ _ config serving, found, serving, unusable,
    (told broken unparsed unusable).2,
    unloads.mpr (.unloaded broken unparsed (.named broken (by decide +kernel)) unusable)⟩

end Config

end EditorBridge
