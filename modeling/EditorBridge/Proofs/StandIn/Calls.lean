import EditorBridge.Daemon.Client
import EditorBridge.Proofs.CommandLine.Reading
import EditorBridge.Proofs.Files.Making
import EditorBridge.StandIn.Run

/-!
# The stand-in as the bridge calls it

What the bridge writes as arguments of a request, the stand-in reads as the status file and the
arguments of that request, whatever the argument looks like: the name of the operation comes before
it and looks like no flag, and from there on nothing is taken for a flag (`read_encode`).  So a call
is never refused, it leaves one record, and what it says is decided by the scenario and the
operation (`run_for_request`).
-/
namespace EditorBridge

open CommandLine

namespace FileTree

/-- The content that a file at a location would be continued from, and whether it may be executed.
Where nothing is, that is an empty file that may not. -/
def fileAt (tree : FileTree) (location : Location) : Bytes × Bool :=
  match tree.entry? location with
  | some (.file content executable) => (content, executable)
  | _ => ([], false)

/-- Bytes are written after what is there, and no other entry is touched. -/
theorem write_of_located {tree : FileTree} {directory location : Location} {path : Path}
    (located : tree.locateFile directory path = .ok location)
    (noDirectory : tree.entry? location ≠ some .directory) (bytes : Bytes) :
    ∃ tree', tree.write directory path true bytes = (tree', .ok ()) ∧
      ∀ other, entry? tree' other =
        if other = location then
          some (.file ((tree.fileAt location).1 ++ bytes) (tree.fileAt location).2)
        else tree.entry? other := by
  have below : location ≠ [] := by
    rintro rfl
    exact noDirectory tree.root_entry
  refine ⟨tree.put location (.file ((tree.fileAt location).1 ++ bytes) (tree.fileAt location).2),
    ?_, put_entry tree below _⟩
  unfold fileAt
  cases found : tree.entry? location with
  | none => simp only [write, located, found, List.nil_append]
  | some entry =>
    cases entry with
    | directory => exact absurd found noDirectory
    | file content executable => simp only [write, located, found, if_true]

/-- Where nothing can be written, nothing is changed. -/
theorem write_of_error {tree : FileTree} {directory : Location} {path : Path} {append : Bool}
    {bytes : Bytes} {error : Host.SystemError}
    (failed : (tree.write directory path append bytes).2 = .error error) :
    tree.write directory path append bytes = (tree, .error error) := by
  unfold write at failed ⊢
  split at failed
  · rw [← failed]
  · split at failed
    · rw [← failed]
    · cases failed
    · cases failed

end FileTree

namespace StandIn

namespace Arguments

/-- What looks like no flag is none, and can be read. -/
theorem not_isFlag_of_isValue {argument : Bytes} (value : Flags.isValue argument = true) :
    isFlag (Word.ofArgument argument) = false ∧
      isUnreadable (Word.ofArgument argument) = false := by
  unfold Flags.isValue at value
  split at value
  · rename_i word
    rw [word]
    exact ⟨rfl, rfl⟩
  · cases value

theorem isValue_encode {text : String} (plain : text.toList.head? ≠ some '-') :
    Flags.isValue (Utf8.encode text) = true := by
  have hyphen : (Utf8.encode text).head? = some Word.hyphen ↔ text.toList.head? = some '-' :=
    Utf8.head?_encode_iff (a := '-') (by decide) text
  exact Flags.isValue_iff.mpr (.inl fun starts => plain (hyphen.mp starts))

/-- A command is read as it was written. -/
theorem withCommand_map_encode (file : String) {command : List String} (ne_nil : command ≠ []) :
    withCommand (some file) (command.map Utf8.encode) = .ok ⟨file, command⟩ := by
  have read (texts : List String) : (texts.map Utf8.encode).mapM textValue = .ok texts := by
    induction texts with
    | nil => rfl
    | cons text rest ih =>
      have first : textValue (Utf8.encode text) = .ok text :=
        textValue_eq_ok_iff.mpr (Utf8.decode?_encode text)
      rw [List.map_cons, List.mapM_cons, first, ih]
      rfl
  rw [withCommand, if_neg (by simpa using ne_nil), read]
  rfl

/-- The command starts where no flag is left. -/
theorem readFrom_of_isValue {argument : Bytes} (value : Flags.isValue argument = true)
    (file : Option String) (rest : List Bytes) :
    readFrom file (argument :: rest) = withCommand file (argument :: rest) := by
  obtain ⟨noFlag, readable⟩ := not_isFlag_of_isValue value
  rw [readFrom.eq_def]
  simp only [noFlag, readable]
  rfl

/-- A status file that looks like no flag is taken in. -/
theorem readFrom_statusFile {value : Bytes} {file : String} (isValue : Flags.isValue value = true)
    (isText : Utf8.decode? value = some file) (rest : List Bytes) :
    readFrom none (Utf8.encode "--status-file" :: value :: rest) = readFrom (some file) rest := by
  have word : Word.ofArgument (Utf8.encode "--status-file") =
      .long (Utf8.encode "status-file") none := by decide +kernel
  have known : FlagName.find? longNames (Utf8.encode "status-file") =
      some (.option .statusFile) := by decide +kernel
  have flag : isFlag (.long (Utf8.encode "status-file") none) = true := by decide +kernel
  have readable : isUnreadable (.long (Utf8.encode "status-file") none) = false := by
    decide +kernel
  obtain ⟨noFlag, readableValue⟩ := not_isFlag_of_isValue isValue
  have taken : Flags.checked (assignOnce none (textValue value)) = .ok (some file) := by
    rw [textValue_eq_ok_iff.mpr isText]
    rfl
  rw [readFrom]
  simp only [word, readable, flag, known, noFlag, readableValue, taken]
  rfl

/-- The status file and a command whose name looks like no flag are read as they were written. -/
theorem read_encode {file name : String} {rest : List String}
    (plainFile : file.toList.head? ≠ some '-') (plainName : name.toList.head? ≠ some '-') :
    read (("--status-file" :: file :: name :: rest).map Utf8.encode) =
      .ok ⟨file, name :: rest⟩ :=
  calc readFrom none (("--status-file" :: file :: name :: rest).map Utf8.encode)
    _ = readFrom (some file) ((name :: rest).map Utf8.encode) :=
        readFrom_statusFile (isValue_encode plainFile) (Utf8.decode?_encode file) _
    _ = withCommand (some file) ((name :: rest).map Utf8.encode) :=
        readFrom_of_isValue (isValue_encode plainName) _ _
    _ = .ok ⟨file, name :: rest⟩ := withCommand_map_encode file (List.cons_ne_nil _ _)

end Arguments

/-- The record of encoded arguments: their texts, with a blank between them. -/
theorem record_map_encode (texts : List String) :
    record (texts.map Utf8.encode) = Utf8.encode (" ".intercalate texts ++ "\n") := by
  have joined : List.intercalate [0x20] (texts.map Utf8.encode) =
      Utf8.encode (" ".intercalate texts) := by
    rw [Utf8.encode, String.toList_intercalate]
    induction texts with
    | nil => rfl
    | cons text rest ih =>
      cases rest with
      | nil => simp [List.intercalate, Utf8.encode]
      | cons next more =>
        simp only [List.map_cons, List.intercalate_cons_cons, List.flatMap_append] at ih ⊢
        rw [ih]
        rfl
  rw [record, Utf8.encode_append, ← joined]
  rfl

/-- What stands before the symbol in a line of suggestions. -/
def suggestionFront : String := "[\x7b\"func_name\":"

/-- What stands after the symbol in a line of suggestions. -/
def suggestionBack : String :=
  ",\"line\":1,\"path\":\"pkg/mod.py\",\"samples\":0,"
    ++ "\"signature\":\x7b\"arg_types\":[\"int\"],\"return_type\":\"str\"\x7d\x7d]\n"

def suggestionAbout (symbol : String) : String :=
  suggestionFront ++ String.ofList (Json.string symbol.toList).render ++ suggestionBack

/-- What an operation gives in the scenario of a name.  Only a suggestion depends on the argument.
-/
def scenarioOutput (name argument : String) (op : Opcode) : Execution.Output :=
  if name = "crash" then output "" "Daemon crashed!\n" 2
  else match op with
    | .check => if name = "type-errors" then output errorReport "" 1 else output cleanReport "" 0
    | .suggest => output (suggestionAbout argument) "" 0
    | .inspect =>
        if name = "inspect-fail" then output "" "Can't find expression at span 9:1 to 9:2\n" 2
        else output inspection "" 0

/-- The fields of a suggestion after the symbol's. -/
def suggestionFields : List (List Char × Json) :=
  [("line".toList, .number ['1']), ("path".toList, .string "pkg/mod.py".toList),
    ("samples".toList, .number ['0']),
    ("signature".toList, .object [("arg_types".toList, .array [.string "int".toList]),
      ("return_type".toList, .string "str".toList)])]

theorem render_single (key : List Char) (value : Json) (fields : List (List Char × Json))
    (some_fields : fields ≠ []) :
    (Json.array [.object ((key, value) :: fields)]).render =
      ('[' :: '\x7b' :: (Json.quote key ++ [':'])) ++ value.render ++
        (',' :: (Json.renderFields fields ++ ['\x7d', ']'])) := by
  cases fields with
  | nil => exact absurd rfl some_fields
  | cons field rest => simp [Json.render, Json.renderItems, Json.renderFields]

/-- A line of suggestions is the same for all symbols but for the symbol. -/
theorem suggestionLine_eq (symbol : String) : suggestionLine symbol = suggestionAbout symbol := by
  have front : '[' :: '\x7b' :: (Json.quote "func_name".toList ++ [':']) =
      suggestionFront.toList := by
    decide +kernel
  have back : ',' :: (Json.renderFields suggestionFields ++ ['\x7d', ']']) ++ ['\n'] =
      suggestionBack.toList := by
    decide +kernel
  have rendered : (suggestions symbol).render = _ :=
    render_single "func_name".toList (.string symbol.toList) suggestionFields
      (List.cons_ne_nil _ _)
  rw [suggestionLine, rendered, front, List.append_assoc, back, suggestionAbout,
    ← String.toList_inj]
  simp only [String.toList_append, String.toList_ofList]

theorem scenarioOutput_congr {name : String} {op : Opcode} (argument argument' : String)
    (fixed : op = .suggest → name = "crash") :
    scenarioOutput name argument op = scenarioOutput name argument' op := by
  unfold scenarioOutput
  split
  · rfl
  · rename_i noCrash
    cases op with
    | check => rfl
    | suggest => exact absurd (fixed rfl) noCrash
    | inspect => rfl

theorem answer_arguments (name : String) (request : Request) :
    answer (Scenario.ofName name) request.arguments =
      scenarioOutput name request.argument request.opcode := by
  have crash : Scenario.ofName name = .crash ↔ name = "crash" := by
    unfold Scenario.ofName
    split <;> simp_all
  have typeErrors : Scenario.ofName name = .typeErrors ↔ name = "type-errors" := by
    unfold Scenario.ofName
    split <;> simp_all
  have inspectFailure : Scenario.ofName name = .inspectFailure ↔ name = "inspect-fail" := by
    unfold Scenario.ofName
    split <;> simp_all
  cases request with
  | check =>
    simp only [answer, Request.arguments, crash, typeErrors, scenarioOutput, Request.opcode]
    rfl
  | suggest symbol =>
    simp only [answer, Request.arguments, crash, scenarioOutput, Request.opcode,
      ← suggestionLine_eq]
    rfl
  | inspect location =>
    simp only [answer, Request.arguments, crash, inspectFailure, scenarioOutput, Request.opcode]

/-- The bridge and the stand-in agree on what a request is. -/
theorem Arguments.read_invocation {config : Config} (bare : config.programArgs.value = [])
    (plain : config.statusFile.value.toList.head? ≠ some '-') (request : Request) :
    Arguments.read (config.invocation request).arguments =
      .ok ⟨config.statusFile.value, request.arguments⟩ := by
  have written : (config.invocation request).arguments =
      ("--status-file" :: config.statusFile.value :: request.arguments).map Utf8.encode := by
    rw [Config.invocation, bare]
    rfl
  rw [written]
  cases request with
  | check => exact read_encode plain (by decide)
  | suggest symbol => exact read_encode plain (by decide)
  | inspect location => exact read_encode plain (by decide)

/-- A request that the bridge makes is never refused by the stand-in, whatever its argument is.  It
leaves one record, which is written after what is in the log and changes no other file, and it is
answered as the scenario says about its operation.  The argument makes no difference to the answer,
but for the symbol that a suggestion names. -/
theorem run_for_request (config : Config) (request : Request) (name : String) (tree : FileTree)
    (directory : Location) (log : Option Path) (bare : config.programArgs.value = [])
    (plain : config.statusFile.value.toList.head? ≠ some '-') :
    let arguments := (config.invocation request).arguments
    let texts := "--status-file" :: config.statusFile.value :: request.arguments
    let outcome := run tree directory (Scenario.ofName name) log arguments
    let answered := scenarioOutput name request.argument request.opcode
    Arguments.read arguments = .ok ⟨config.statusFile.value, request.arguments⟩ ∧
    record arguments = Utf8.encode (" ".intercalate texts ++ "\n") ∧
    (log = none → outcome = (tree, answered)) ∧
    (∀ path location, log = some path → tree.locateFile directory path = .ok location →
      tree.entry? location ≠ some .directory →
        outcome.2 = answered ∧
        ∀ other, FileTree.entry? outcome.1 other =
          if other = location then
            some (.file ((tree.fileAt location).1 ++ record arguments) (tree.fileAt location).2)
          else tree.entry? other) ∧
    (∀ path error, log = some path →
      (tree.write directory path true (record arguments)).2 = .error error →
        outcome = (tree, output "" (recordFailure error) 1)) ∧
    ∀ argument, (request.opcode = .suggest → name = "crash") →
      scenarioOutput name argument request.opcode = answered := by
  intro arguments texts outcome answered
  have told : Arguments.read arguments = .ok ⟨config.statusFile.value, request.arguments⟩ :=
    Arguments.read_invocation bare plain request
  have answers : answer (Scenario.ofName name) request.arguments = answered :=
    answer_arguments name request
  refine ⟨told, ?_, ?_, ?_, ?_, ?_⟩
  · have written : arguments = texts.map Utf8.encode := by
      unfold arguments texts
      rw [Config.invocation, bare]
      rfl
    rw [written, record_map_encode]
  · rintro rfl
    simp only [outcome, run, told, answers]
  · rintro path location rfl located noDirectory
    obtain ⟨tree', written, entries⟩ :=
      FileTree.write_of_located located noDirectory (record arguments)
    have ended : outcome = (tree', answered) := by
      simp only [outcome, run, told, written, answers]
    rw [ended]
    exact ⟨rfl, entries⟩
  · rintro path error rfl failed
    have written := FileTree.write_of_error failed
    simp only [outcome, run, told, written]
  · intro argument fixed
    exact scenarioOutput_congr argument request.argument fixed

/-- A symbol that looks like one of the stand-in's own flags, after a first call. -/
theorem run_for_help_symbol :
    let config := Config.default
    let path := Utf8.encode "calls"
    let tree : FileTree := ⟨[([path], .file (Utf8.encode "earlier\n") false)]⟩
    let arguments := (config.invocation (.suggest "--help")).arguments
    let outcome := run tree [] (Scenario.ofName "success") (some path) arguments
    config.programArgs.value = [] ∧
    config.statusFile.value.toList.head? ≠ some '-' ∧
    Arguments.read arguments =
      .ok ⟨".mypy_cache/.dmypy.json", ["suggest", "--help", "--json"]⟩ ∧
    outcome.2 = output (suggestionAbout "--help") "" 0 ∧
    FileTree.entry? outcome.1 [path] = some (.file (Utf8.encode
      "earlier\n--status-file .mypy_cache/.dmypy.json suggest --help --json\n") false) := by
  intro config path tree arguments outcome
  have bare : config.programArgs.value = [] := rfl
  have plain : config.statusFile.value.toList.head? ≠ some '-' := by decide +kernel
  obtain ⟨told, recorded, -, logged, -, -⟩ :=
    run_for_request config (.suggest "--help") "success" tree [] (some path) bare plain
  have located : tree.locateFile [] path = .ok [path] := by decide +kernel
  have noDirectory : tree.entry? [path] ≠ some .directory := by decide +kernel
  obtain ⟨answered, entries⟩ := logged path [path] rfl located noDirectory
  have written : (tree.fileAt [path]).1 ++ record arguments = Utf8.encode
      "earlier\n--status-file .mypy_cache/.dmypy.json suggest --help --json\n" := by
    rw [recorded]
    decide +kernel
  refine ⟨bare, plain, told, answered, (entries [path]).trans ?_⟩
  rw [if_pos rfl, written]
  rfl

end StandIn

end EditorBridge
