import EditorBridge.Proofs.Config.Precedence
import EditorBridge.Proofs.Toml.Keys
import Mathlib.Data.List.Forall2

/-!
# The sections of a configuration file

A file has the form of a configuration if its top-level keys are titles of sections and every
section is a table or an array with values of the right types (`HasForm`).  What such a file sets is
what it gives for each key (`Decodes`); the order of its keys does not matter, nor do further keys
and elements, as long as a further key can be read (`sections_decoded`).  In a document that was
read from a text no key stands twice (`distinctKeys_of_parse?`, `decodes_of_text`).
-/
namespace EditorBridge

namespace Config.Schema

open EditorBridge.Toml (Value Table)

/-- Whether a value is a number that no number of the reader equals, or holds one: a number without
a value, an integer beyond 128 bits, or a float beyond the range of binary floating point. -/
inductive Unreadable : Value → Prop where
  | noValue : Unreadable (.integer none)
  | tooGreat (n : Nat) (great : UInt64.size * UInt64.size ≤ n) :
      Unreadable (.integer (some (.ofNat n)))
  | tooSmall (n : Nat) (great : UInt64.size * UInt64.size / 2 ≤ n) :
      Unreadable (.integer (some (.negSucc n)))
  | tooLarge (digits : Decimal) (large : digits.tooLarge = true) :
      Unreadable (.float (some digits))
  | item (items : List Value) (item : Value) (member : item ∈ items) (bad : Unreadable item) :
      Unreadable (.array items)
  | entry (entries : Table) (key : String) (value : Value) (member : (key, value) ∈ entries)
      (bad : Unreadable value) : Unreadable (.table entries)

theorem readableItems_iff {items : List Value} :
    readableItems items = true ↔ ∀ item ∈ items, readable item = true := by
  induction items with
  | nil => simp [readableItems]
  | cons item rest ih => simp [readableItems, ih]

theorem readableEntries_iff {entries : Table} :
    readableEntries entries = true ↔ ∀ entry ∈ entries, readable entry.2 = true := by
  induction entries with
  | nil => simp [readableEntries]
  | cons entry rest ih =>
    obtain ⟨key, value⟩ := entry
    simp [readableEntries, ih]

theorem Unreadable.readable_eq {value : Value} (bad : Unreadable value) :
    readable value = false := by
  induction bad with
  | noValue => rfl
  | tooGreat n great => exact decide_eq_false (Nat.not_lt.mpr great)
  | tooSmall n great => exact decide_eq_false (Nat.not_lt.mpr great)
  | tooLarge digits large => simp [readable, large]
  | item items item member _ ih =>
    rw [readable, Bool.eq_false_iff, Ne, readableItems_iff]
    exact fun all => Bool.false_ne_true (ih.symm.trans (all item member))
  | entry entries key value member _ ih =>
    rw [readable, Bool.eq_false_iff, Ne, readableEntries_iff]
    exact fun all => Bool.false_ne_true (ih.symm.trans (all (key, value) member))

theorem unreadable_of_readable_eq {value : Value} (bad : readable value = false) :
    Unreadable value := by
  match value, bad with
  | .integer none, _ => exact .noValue
  | .integer (some (.ofNat n)), bad => exact .tooGreat n (Nat.not_lt.mp (of_decide_eq_false bad))
  | .integer (some (.negSucc n)), bad => exact .tooSmall n (Nat.not_lt.mp (of_decide_eq_false bad))
  | .float (some digits), bad => exact .tooLarge digits (by simpa [readable] using bad)
  | .array items, bad =>
    rw [readable, Bool.eq_false_iff, Ne, readableItems_iff] at bad
    obtain ⟨item, member, bad⟩ : ∃ item ∈ items, readable item = false := by simpa using bad
    exact .item items item member (unreadable_of_readable_eq bad)
  | .table entries, bad =>
    rw [readable, Bool.eq_false_iff, Ne, readableEntries_iff] at bad
    obtain ⟨key, value, member, bad⟩ :
        ∃ key value, (key, value) ∈ entries ∧ readable value = false := by simpa using bad
    have smaller : sizeOf value < sizeOf entries := by
      have entrySmaller := List.sizeOf_lt_of_mem member
      rw [Prod.mk.sizeOf_spec] at entrySmaller
      omega
    exact .entry entries key value member (unreadable_of_readable_eq bad)
termination_by sizeOf value

theorem readable_iff {value : Value} : readable value = true ↔ ¬ Unreadable value := by
  constructor
  · intro good bad
    simp [bad.readable_eq] at good
  · intro good
    exact Bool.of_not_eq_false fun bad => good (unreadable_of_readable_eq bad)

/-- The type of the value of a known key. -/
inductive Kind where
  | text
  | texts
  | natural
  | boolean
  deriving DecidableEq, Repr

inductive Kind.Admits : Kind → Value → Prop where
  | text (text : String) : Admits .text (.string text)
  | texts (texts : List String) : Admits .texts (.array (texts.map .string))
  | natural (n : Nat) (small : n < UInt64.size) : Admits .natural (.integer (some (.ofNat n)))
  | boolean (value : Bool) : Admits .boolean (.boolean value)

/-- The keys of the section about the client with their types, in the order of declaration. -/
def daemonFields : List (String × Kind) :=
  [("program", .text), ("program_args", .texts), ("status_file", .text), ("timeout_secs", .natural),
    ("project_dir", .text)]

/-- The keys of the section about the log with their types. -/
def loggingFields : List (String × Kind) := [("verbose", .boolean)]

/-- The titles of the sections with the keys of each. -/
def sections : List (String × List (String × Kind)) :=
  [("daemon", daemonFields), ("logging", loggingFields)]

/-- Whether a value has the form of a section with given keys: it is a table whose known keys have
values of the right types and whose further keys can be read, or an array that starts with values
for all keys. -/
inductive HasForm (fields : List (String × Kind)) : Value → Prop where
  | table (entries : Table)
      (known : ∀ field ∈ fields, ∀ value, (field.1, value) ∈ entries → field.2.Admits value)
      (further : ∀ key value, (key, value) ∈ entries → key ∉ fields.map Prod.fst →
        ¬ Unreadable value) :
      HasForm fields (.table entries)
  | array (items more : List Value)
      (typed : List.Forall₂ (fun field item => field.2.Admits item) fields items) :
      HasForm fields (.array (items ++ more))

/-- Whether a value gives another one for a key, as a table by name or as an array by position. -/
inductive Gives (fields : List (String × Kind)) : Value → String → Value → Prop where
  | named (entries : Table) (key : String) (value : Value) (entry : (key, value) ∈ entries) :
      Gives fields (.table entries) key value
  | listed (items : List Value) (key : String) (value : Value)
      (entry : (key, value) ∈ (fields.map Prod.fst).zip items) :
      Gives fields (.array items) key value

def Given (document : Table) (title key : String) (value : Value) : Prop :=
  ∃ fields part, (title, fields) ∈ sections ∧ (title, part) ∈ document ∧
    Gives fields part key value

/-- Whether a setting is the value that is given for a key, and is not set if none is given.  A
value of the setting has one spelling in a document. -/
structure Holds {α : Type} (given : Value → Prop) (spell : α → Value) (setting : Option α) :
    Prop where
  some_iff : ∀ value, setting = some value ↔ given (spell value)
  none_iff : setting = none ↔ ∀ value, ¬ given value

structure Decodes (document : Table) (settings : FileSettings) : Prop where
  program : Holds (Given document "daemon" "program") .string settings.daemon.program
  programArgs : Holds (Given document "daemon" "program_args")
    (fun texts => .array (texts.map .string)) settings.daemon.programArgs
  statusFile : Holds (Given document "daemon" "status_file") .string settings.daemon.statusFile
  timeoutSecs : Holds (Given document "daemon" "timeout_secs")
    (fun n => .integer (some (.ofNat n))) settings.daemon.timeoutSecs
  projectDir : Holds (Given document "daemon" "project_dir") .string settings.daemon.projectDir
  verbose : Holds (Given document "logging" "verbose") .boolean settings.logging.verbose

/-- Whether a reader reads exactly the values of a type, each from its spelling. -/
structure Reads {α : Type} (read : Value → Option α) (spell : α → Value) (kind : Kind) : Prop where
  eq_spell : ∀ value x, read value = some x → value = spell x
  injective : ∀ x y, spell x = spell y → x = y
  isSome_iff : ∀ value, (read value).isSome = true ↔ kind.Admits value

theorem string?_eq_some_iff {value : Value} {text : String} :
    string? value = some text ↔ value = .string text := by
  cases value <;> simp [string?]

theorem mapM_string?_eq_some_iff {items : List Value} {texts : List String} :
    items.mapM string? = some texts ↔ items = texts.map .string := by
  induction items generalizing texts with
  | nil => cases texts <;> simp [List.mapM_nil]
  | cons item rest ih =>
    rw [List.mapM_cons, Option.bind_eq_bind, Option.bind_eq_some_iff]
    simp only [string?_eq_some_iff, Option.bind_eq_bind, Option.bind_eq_some_iff, ih,
      Option.pure_def, Option.some.injEq]
    constructor
    · rintro ⟨text, rfl, more, rfl, rfl⟩
      rfl
    · intro spelled
      cases texts with
      | nil => cases spelled
      | cons text more =>
        obtain ⟨rfl, rfl⟩ := List.cons.inj spelled
        exact ⟨text, rfl, more, rfl, rfl⟩

theorem strings?_eq_some_iff {value : Value} {texts : List String} :
    strings? value = some texts ↔ value = .array (texts.map .string) := by
  cases value with
  | array items => rw [strings?, mapM_string?_eq_some_iff, Value.array.injEq]
  | _ => exact iff_of_false nofun nofun

theorem natural?_eq_some_iff {value : Value} {n : Nat} :
    natural? value = some n ↔ value = .integer (some (.ofNat n)) ∧ n < UInt64.size := by
  constructor
  · intro isNatural
    unfold natural? at isNatural
    split at isNatural
    · split at isNatural
      · rename_i small
        cases isNatural
        exact ⟨rfl, small⟩
      · cases isNatural
    · cases isNatural
  · rintro ⟨rfl, small⟩
    exact if_pos small

theorem boolean?_eq_some_iff {value : Value} {b : Bool} :
    boolean? value = some b ↔ value = .boolean b := by
  cases value <;> simp [boolean?]

theorem reads_string : Reads string? .string .text where
  eq_spell _ _ := string?_eq_some_iff.mp
  injective _ _ := Value.string.inj
  isSome_iff value := by
    simp only [Option.isSome_iff_exists, string?_eq_some_iff]
    exact ⟨fun ⟨text, isText⟩ => isText ▸ .text text, fun | .text text => ⟨text, rfl⟩⟩

theorem reads_strings : Reads strings? (fun texts => .array (texts.map .string)) .texts where
  eq_spell _ _ := strings?_eq_some_iff.mp
  injective _ _ same :=
    List.map_injective_iff.mpr (fun _ _ => Value.string.inj) (Value.array.inj same)
  isSome_iff value := by
    simp only [Option.isSome_iff_exists, strings?_eq_some_iff]
    exact ⟨fun ⟨texts, areTexts⟩ => areTexts ▸ .texts texts, fun | .texts texts => ⟨texts, rfl⟩⟩

theorem reads_natural : Reads natural? (fun n => .integer (some (.ofNat n))) .natural where
  eq_spell _ _ isNatural := (natural?_eq_some_iff.mp isNatural).1
  injective _ _ same := Int.ofNat.inj (Option.some.inj (Value.integer.inj same))
  isSome_iff value := by
    simp only [Option.isSome_iff_exists, natural?_eq_some_iff]
    exact ⟨fun ⟨n, isNatural, small⟩ => isNatural ▸ .natural n small,
      fun | .natural n small => ⟨n, rfl, small⟩⟩

theorem reads_boolean : Reads boolean? .boolean .boolean where
  eq_spell _ _ := boolean?_eq_some_iff.mp
  injective _ _ := Value.boolean.inj
  isSome_iff value := by
    simp only [Option.isSome_iff_exists, boolean?_eq_some_iff]
    exact ⟨fun ⟨b, isBoolean⟩ => isBoolean ▸ .boolean b, fun | .boolean b => ⟨b, rfl⟩⟩

theorem gives_table_iff {fields : List (String × Kind)} {entries : Table} {key : String}
    {value : Value} : Gives fields (.table entries) key value ↔ (key, value) ∈ entries :=
  ⟨fun | .named _ _ _ entry => entry, .named entries key value⟩

theorem gives_array_iff {fields : List (String × Kind)} {items : List Value} {key : String}
    {value : Value} :
    Gives fields (.array items) key value ↔ (key, value) ∈ (fields.map Prod.fst).zip items :=
  ⟨fun | .listed _ _ _ entry => entry, .listed items key value⟩

section

variable {α : Type} {read : Value → Option α} {spell : α → Value} {kind : Kind}
  {given given' : Value → Prop} {setting : Option α} {entries : Table} {key : String}

theorem Holds.congr (holds : Holds given spell setting)
    (same : ∀ value, given' value ↔ given value) : Holds given' spell setting where
  some_iff value := (holds.some_iff value).trans (same _).symm
  none_iff := holds.none_iff.trans (by simp only [same])

theorem holds_none (absent : ∀ value, ¬ given value) : Holds given spell none where
  some_iff value := iff_of_false nofun (absent (spell value))
  none_iff := iff_of_true rfl absent

theorem Reads.holds_some (reads : Reads read spell kind) {value : Value} {x : α}
    (only : ∀ value', given value' ↔ value' = value) (isRead : read value = some x) :
    Holds given spell (some x) where
  some_iff y := by
    rw [only, reads.eq_spell value x isRead]
    exact ⟨fun same => (Option.some.inj same) ▸ rfl, fun same => (reads.injective y x same) ▸ rfl⟩
  none_iff := iff_of_false nofun fun absent => absent value ((only value).mpr rfl)

/-- A key that is read from a table is what the table gives for it. -/
theorem Reads.holds_table (reads : Reads read spell kind) (distinct : entries.Distinct)
    (fields : List (String × Kind)) (isRead : optional read entries key = some setting) :
    Holds (Gives fields (.table entries) key) spell setting := by
  unfold optional at isRead
  split at isRead
  · rename_i absent
    cases isRead
    refine holds_none fun value gives => ?_
    exact Toml.lookup_eq_none_iff.mp absent value (gives_table_iff.mp gives)
  · rename_i value present
    obtain ⟨x, isX, rfl⟩ := Option.map_eq_some_iff.mp isRead
    refine reads.holds_some (fun value' => ?_) isX
    rw [gives_table_iff, ← distinct.lookup_eq_some_iff, present, Option.some.injEq, eq_comm]

/-- An item that is read from an array is what the array gives for the key at its place. -/
theorem Reads.holds_array (reads : Reads read spell kind) {fields : List (String × Kind)}
    {items : List Value} {item : Value} {x : α} (isRead : read item = some x)
    (place : ∀ value, (key, value) ∈ (fields.map Prod.fst).zip items ↔ value = item) :
    Holds (Gives fields (.array items) key) spell (some x) :=
  reads.holds_some (fun value => gives_array_iff.trans (place value)) isRead

theorem optional_isSome_iff (distinct : entries.Distinct) :
    (optional read entries key).isSome = true ↔
      ∀ value, (key, value) ∈ entries → (read value).isSome = true := by
  unfold optional
  split
  · rename_i absent
    exact iff_of_true rfl fun value member =>
      absurd member (Toml.lookup_eq_none_iff.mp absent value)
  · rename_i value present
    rw [Option.isSome_map]
    constructor
    · intro isSome value' member
      rw [← distinct.lookup_eq_some_iff, present] at member
      exact Option.some.inj member ▸ isSome
    · intro all
      exact all value (distinct.lookup_eq_some_iff.mp present)

/-- A step that yields something and a rest that does whatever the step has yielded. -/
theorem isSome_bind_iff {β : Type} {step : Option α} {next : α → Option β} {p : Prop}
    (rest : ∀ a, (next a).isSome = true ↔ p) :
    (step >>= next).isSome = true ↔ step.isSome = true ∧ p := by
  cases step with
  | none => simp
  | some a => simpa using rest a

end

/-- A part of a document without a key that stands twice in it. -/
def DistinctPart (part : Value) : Prop := ∀ entries, part = .table entries → Table.Distinct entries

theorem hasForm_array_iff {fields : List (String × Kind)} {items : List Value} :
    HasForm fields (.array items) ↔ ∃ first more, items = first ++ more ∧
      List.Forall₂ (fun field item => field.2.Admits item) fields first :=
  ⟨fun | .array first more typed => ⟨first, more, rfl, typed⟩,
    fun ⟨first, more, whole, typed⟩ => whole ▸ .array first more typed⟩

theorem othersReadable_iff {fields : List (String × Kind)} {entries : Table} :
    othersReadable (fields.map Prod.fst) entries = true ↔
      ∀ key value, (key, value) ∈ entries → key ∉ fields.map Prod.fst → ¬ Unreadable value := by
  rw [othersReadable, readableEntries_iff]
  simp only [List.mem_filter, readable_iff, Prod.forall, List.contains_iff_mem, Bool.not_eq_true',
    ← Bool.not_eq_true, and_imp]

theorem daemon?_table_isSome_iff {entries : Table} (distinct : entries.Distinct) :
    (daemon? (.table entries)).isSome = true ↔ HasForm daemonFields (.table entries) := by
  have judged : (daemon? (.table entries)).isSome = true ↔
      (optional string? entries "program").isSome = true ∧
      (optional strings? entries "program_args").isSome = true ∧
      (optional string? entries "status_file").isSome = true ∧
      (optional natural? entries "timeout_secs").isSome = true ∧
      (optional string? entries "project_dir").isSome = true ∧
      othersReadable (daemonFields.map Prod.fst) entries = true := by
    refine isSome_bind_iff fun _ => isSome_bind_iff fun _ => isSome_bind_iff fun _ =>
      isSome_bind_iff fun _ => isSome_bind_iff fun _ => ?_
    split <;> simp_all [daemonFields, daemonKeys]
  simp only [judged, optional_isSome_iff distinct, reads_string.isSome_iff,
    reads_strings.isSome_iff, reads_natural.isSome_iff, othersReadable_iff]
  constructor
  · rintro ⟨program, programArgs, statusFile, timeoutSecs, projectDir, further⟩
    refine .table entries ?_ further
    simp only [daemonFields, List.forall_mem_cons]
    exact ⟨program, programArgs, statusFile, timeoutSecs, projectDir, nofun⟩
  · rintro (⟨_, known, further⟩ | _)
    simp only [daemonFields, List.forall_mem_cons] at known
    obtain ⟨program, programArgs, statusFile, timeoutSecs, projectDir, -⟩ := known
    exact ⟨program, programArgs, statusFile, timeoutSecs, projectDir, further⟩

theorem daemon?_array_isSome_iff {items : List Value} :
    (daemon? (.array items)).isSome = true ↔ HasForm daemonFields (.array items) := by
  have judged (program programArgs statusFile timeoutSecs projectDir : Value)
      (more : List Value) :
      (daemon? (.array (program :: programArgs :: statusFile :: timeoutSecs :: projectDir ::
        more))).isSome = true ↔ (string? program).isSome = true ∧
        (strings? programArgs).isSome = true ∧ (string? statusFile).isSome = true ∧
        (natural? timeoutSecs).isSome = true ∧ (string? projectDir).isSome = true ∧ True :=
    isSome_bind_iff fun _ => isSome_bind_iff fun _ => isSome_bind_iff fun _ =>
      isSome_bind_iff fun _ => isSome_bind_iff fun _ => iff_of_true rfl trivial
  simp only [reads_string.isSome_iff, reads_strings.isSome_iff, reads_natural.isSome_iff]
    at judged
  rw [hasForm_array_iff]
  constructor
  · intro isSome
    match items, isSome with
    | program :: programArgs :: statusFile :: timeoutSecs :: projectDir :: more, isSome =>
      obtain ⟨h₁, h₂, h₃, h₄, h₅, -⟩ := (judged _ _ _ _ _ _).mp isSome
      exact ⟨[program, programArgs, statusFile, timeoutSecs, projectDir], more, rfl,
        .cons h₁ (.cons h₂ (.cons h₃ (.cons h₄ (.cons h₅ .nil))))⟩
  · rintro ⟨first, more, rfl, typed⟩
    obtain _ | ⟨h₁, _ | ⟨h₂, _ | ⟨h₃, _ | ⟨h₄, _ | ⟨h₅, _ | _⟩⟩⟩⟩⟩ := typed
    exact (judged _ _ _ _ _ _).mpr ⟨h₁, h₂, h₃, h₄, h₅, trivial⟩

/-- Something has the form of the section about the client exactly if it is read as that. -/
theorem daemon?_isSome_iff {part : Value} (distinct : DistinctPart part)
    (notDate : part ≠ .dateTime) :
    (daemon? part).isSome = true ↔ HasForm daemonFields part := by
  cases part with
  | table entries => exact daemon?_table_isSome_iff (distinct entries rfl)
  | array items => exact daemon?_array_isSome_iff
  | dateTime => exact absurd rfl notDate
  | _ => exact iff_of_false Bool.false_ne_true nofun

theorem logging?_table_isSome_iff {entries : Table} (distinct : entries.Distinct) :
    (logging? (.table entries)).isSome = true ↔ HasForm loggingFields (.table entries) := by
  have judged : (logging? (.table entries)).isSome = true ↔
      (optional boolean? entries "verbose").isSome = true ∧
      othersReadable (loggingFields.map Prod.fst) entries = true := by
    refine isSome_bind_iff fun _ => ?_
    split <;> simp_all [loggingFields, loggingKeys]
  simp only [judged, optional_isSome_iff distinct, reads_boolean.isSome_iff, othersReadable_iff]
  constructor
  · rintro ⟨verbose, further⟩
    refine .table entries ?_ further
    simp only [loggingFields, List.forall_mem_cons]
    exact ⟨verbose, nofun⟩
  · rintro (⟨_, known, further⟩ | _)
    simp only [loggingFields, List.forall_mem_cons] at known
    exact ⟨known.1, further⟩

theorem logging?_array_isSome_iff {items : List Value} :
    (logging? (.array items)).isSome = true ↔ HasForm loggingFields (.array items) := by
  have judged (verbose : Value) (more : List Value) :
      (logging? (.array (verbose :: more))).isSome = true ↔
        (boolean? verbose).isSome = true ∧ True :=
    isSome_bind_iff fun _ => iff_of_true rfl trivial
  simp only [reads_boolean.isSome_iff] at judged
  rw [hasForm_array_iff]
  constructor
  · intro isSome
    match items, isSome with
    | verbose :: more, isSome =>
      exact ⟨[verbose], more, rfl, .cons ((judged _ _).mp isSome).1 .nil⟩
  · rintro ⟨first, more, rfl, typed⟩
    obtain _ | ⟨isBoolean, _ | _⟩ := typed
    exact (judged _ _).mpr ⟨isBoolean, trivial⟩

/-- Something has the form of the section about the log exactly if it is read as that. -/
theorem logging?_isSome_iff {part : Value} (distinct : DistinctPart part)
    (notDate : part ≠ .dateTime) :
    (logging? part).isSome = true ↔ HasForm loggingFields part := by
  cases part with
  | table entries => exact logging?_table_isSome_iff (distinct entries rfl)
  | array items => exact logging?_array_isSome_iff
  | dateTime => exact absurd rfl notDate
  | _ => exact iff_of_false Bool.false_ne_true nofun

/-- What is read as the section about the client is what is given for its keys. -/
theorem holds_daemon {part : Value} (distinct : DistinctPart part) {daemon : DaemonSection}
    (isRead : daemon? part = some daemon) :
    Holds (Gives daemonFields part "program") .string daemon.program ∧
    Holds (Gives daemonFields part "program_args") (fun texts => .array (texts.map .string))
      daemon.programArgs ∧
    Holds (Gives daemonFields part "status_file") .string daemon.statusFile ∧
    Holds (Gives daemonFields part "timeout_secs") (fun n => .integer (some (.ofNat n)))
      daemon.timeoutSecs ∧
    Holds (Gives daemonFields part "project_dir") .string daemon.projectDir := by
  cases part with
  | table entries =>
    have distinct : Table.Distinct entries := distinct entries rfl
    simp only [daemon?, Option.bind_eq_bind, Option.bind_eq_some_iff] at isRead
    obtain ⟨program, h₁, programArgs, h₂, statusFile, h₃, timeoutSecs, h₄, projectDir, h₅, made⟩ :=
      isRead
    split at made
    · cases made
      exact ⟨reads_string.holds_table distinct _ h₁, reads_strings.holds_table distinct _ h₂,
        reads_string.holds_table distinct _ h₃, reads_natural.holds_table distinct _ h₄,
        reads_string.holds_table distinct _ h₅⟩
    · cases made
  | array items =>
    match items, isRead with
    | program :: programArgs :: statusFile :: timeoutSecs :: projectDir :: more, isRead =>
      simp only [daemon?, Option.bind_eq_bind, Option.bind_eq_some_iff] at isRead
      obtain ⟨_, h₁, _, h₂, _, h₃, _, h₄, _, h₅, made⟩ := isRead
      cases made
      refine ⟨reads_string.holds_array h₁ ?_, reads_strings.holds_array h₂ ?_,
        reads_string.holds_array h₃ ?_, reads_natural.holds_array h₄ ?_,
        reads_string.holds_array h₅ ?_⟩ <;> simp [daemonFields]
  | dateTime =>
    cases isRead
    exact ⟨holds_none nofun, holds_none nofun, holds_none nofun, holds_none nofun, holds_none nofun⟩
  | _ => cases isRead

/-- What is read as the section about the log is what is given for its key. -/
theorem holds_logging {part : Value} (distinct : DistinctPart part) {logging : LoggingSection}
    (isRead : logging? part = some logging) :
    Holds (Gives loggingFields part "verbose") .boolean logging.verbose := by
  cases part with
  | table entries =>
    have distinct : Table.Distinct entries := distinct entries rfl
    simp only [logging?, Option.bind_eq_bind, Option.bind_eq_some_iff] at isRead
    obtain ⟨verbose, isVerbose, made⟩ := isRead
    split at made
    · cases made
      exact reads_boolean.holds_table distinct _ isVerbose
    · cases made
  | array items =>
    match items, isRead with
    | verbose :: more, isRead =>
      simp only [logging?, Option.bind_eq_bind, Option.bind_eq_some_iff] at isRead
      obtain ⟨_, isVerbose, made⟩ := isRead
      cases made
      exact reads_boolean.holds_array isVerbose (by simp [loggingFields])
  | dateTime =>
    cases isRead
    exact holds_none nofun
  | _ => cases isRead

/-- A document in which no title and no key of a section stands twice. -/
structure DistinctKeys (document : Table) : Prop where
  titles : document.Distinct
  parts : ∀ title part, (title, part) ∈ document → DistinctPart part

/-- Keys are distinct in every document that is read from a text. -/
theorem distinctKeys_of_parse? {text : String} {document : Table}
    (isRead : Toml.Document.parse? text = some document) : DistinctKeys document := by
  cases Toml.Document.unambiguous_parse? isRead with
  | table _ distinct all =>
    refine ⟨distinct, fun title part member entries isTable => ?_⟩
    subst isTable
    cases all title _ member with
    | table _ distinct _ => exact distinct

theorem mem_sections_iff {title : String} {fields : List (String × Kind)} :
    (title, fields) ∈ sections ↔
      (title = "daemon" ∧ fields = daemonFields) ∨
        (title = "logging" ∧ fields = loggingFields) := by
  simp [sections]

section

variable {document : Table} (distinct : DistinctKeys document)
  {settings : FileSettings}

include distinct

/-- A document is read exactly if each of its keys is the title of a section and each section has
the form of that. -/
theorem settings?_isSome_iff
    (notDate : ∀ title ∈ ["daemon", "logging"], (title, Value.dateTime) ∉ document) :
    (settings? document).isSome = true ↔ ∀ title part, (title, part) ∈ document →
      ∃ fields, (title, fields) ∈ sections ∧ HasForm fields part := by
  have judged : (settings? document).isSome = true ↔
      (optional daemon? document "daemon").isSome = true ∧
      (optional logging? document "logging").isSome = true ∧
      document.all (fun entry => isSection entry.1) = true := by
    refine isSome_bind_iff fun _ => isSome_bind_iff fun _ => ?_
    split
    · rename_i titled
      exact iff_of_true rfl titled
    · rename_i untitled
      exact iff_of_false Bool.false_ne_true untitled
  have daemonForm {part : Value} (member : ("daemon", part) ∈ document) :
      (daemon? part).isSome = true ↔ HasForm daemonFields part :=
    daemon?_isSome_iff (distinct.parts _ _ member) fun isDate =>
      notDate "daemon" (by simp) (isDate ▸ member)
  have loggingForm {part : Value} (member : ("logging", part) ∈ document) :
      (logging? part).isSome = true ↔ HasForm loggingFields part :=
    logging?_isSome_iff (distinct.parts _ _ member) fun isDate =>
      notDate "logging" (by simp) (isDate ▸ member)
  rw [judged, optional_isSome_iff distinct.titles, optional_isSome_iff distinct.titles,
    List.all_eq_true]
  constructor
  · rintro ⟨daemon, logging, titled⟩ title part member
    have isTitle : title = "daemon" ∨ title = "logging" := by
      simpa [isSection] using titled (title, part) member
    rcases isTitle with rfl | rfl
    · exact ⟨daemonFields, by simp [sections], (daemonForm member).mp (daemon part member)⟩
    · exact ⟨loggingFields, by simp [sections], (loggingForm member).mp (logging part member)⟩
  · intro formed
    refine ⟨fun part member => ?_, fun part member => ?_, fun (title, part) member => ?_⟩
    · obtain ⟨fields, isSection, form⟩ := formed "daemon" part member
      obtain ⟨-, rfl⟩ | ⟨other, -⟩ := mem_sections_iff.mp isSection
      · exact (daemonForm member).mpr form
      · simp at other
    · obtain ⟨fields, isSection, form⟩ := formed "logging" part member
      obtain ⟨other, -⟩ | ⟨-, rfl⟩ := mem_sections_iff.mp isSection
      · simp at other
      · exact (loggingForm member).mpr form
    · obtain ⟨fields, isSection, -⟩ := formed title part member
      obtain ⟨rfl, -⟩ | ⟨rfl, -⟩ := mem_sections_iff.mp isSection <;> rfl

/-- What a document gives for a key is what the section of that title gives. -/
theorem given_iff {title key : String} {fields : List (String × Kind)} {part value : Value}
    (isSection : (title, fields) ∈ sections) (member : (title, part) ∈ document) :
    Given document title key value ↔ Gives fields part key value := by
  constructor
  · rintro ⟨fields', part', isSection', member', gives⟩
    have samePart : part' = part := by
      rw [← distinct.titles.lookup_eq_some_iff] at member member'
      exact Option.some.inj (member'.symm.trans member)
    have sameFields : fields' = fields := by
      rw [mem_sections_iff] at isSection isSection'
      rcases isSection with ⟨rfl, rfl⟩ | ⟨rfl, rfl⟩ <;> simpa using isSection'
    exact samePart ▸ sameFields ▸ gives
  · exact fun gives => ⟨fields, part, isSection, member, gives⟩

omit distinct in
theorem not_given {title key : String} {value : Value}
    (absent : document.lookup title = none) : ¬ Given document title key value := by
  rintro ⟨_, part, _, member, _⟩
  exact Toml.lookup_eq_none_iff.mp absent part member

theorem DistinctKeys.holds_optional_daemon {daemon : Option DaemonSection}
    (isRead : optional daemon? document "daemon" = some daemon) :
    let daemon := daemon.getD .empty
    Holds (Given document "daemon" "program") .string daemon.program ∧
    Holds (Given document "daemon" "program_args") (fun texts => .array (texts.map .string))
      daemon.programArgs ∧
    Holds (Given document "daemon" "status_file") .string daemon.statusFile ∧
    Holds (Given document "daemon" "timeout_secs") (fun n => .integer (some (.ofNat n)))
      daemon.timeoutSecs ∧
    Holds (Given document "daemon" "project_dir") .string daemon.projectDir := by
  unfold optional at isRead
  split at isRead
  · rename_i absent
    cases isRead
    have none : ∀ key value, ¬ Given document "daemon" key value := fun _ _ => not_given absent
    exact ⟨holds_none (none _), holds_none (none _), holds_none (none _), holds_none (none _),
      holds_none (none _)⟩
  · rename_i part present
    obtain ⟨daemon, partRead, rfl⟩ := Option.map_eq_some_iff.mp isRead
    have member := distinct.titles.lookup_eq_some_iff.mp present
    have same (key : String) (value : Value) :
        Given document "daemon" key value ↔ Gives daemonFields part key value :=
      given_iff distinct (by simp [sections]) member
    obtain ⟨program, programArgs, statusFile, timeoutSecs, projectDir⟩ :=
      holds_daemon (distinct.parts _ _ member) partRead
    exact ⟨program.congr (same _), programArgs.congr (same _), statusFile.congr (same _),
      timeoutSecs.congr (same _), projectDir.congr (same _)⟩

theorem DistinctKeys.holds_optional_logging {logging : Option LoggingSection}
    (isRead : optional logging? document "logging" = some logging) :
    Holds (Given document "logging" "verbose") .boolean (logging.getD .empty).verbose := by
  unfold optional at isRead
  split at isRead
  · rename_i absent
    cases isRead
    exact holds_none fun _ => not_given absent
  · rename_i part present
    obtain ⟨logging, partRead, rfl⟩ := Option.map_eq_some_iff.mp isRead
    have member := distinct.titles.lookup_eq_some_iff.mp present
    exact (holds_logging (distinct.parts _ _ member) partRead).congr fun _ =>
      given_iff distinct (by simp [sections]) member

/-- The settings that are read are what the document gives. -/
theorem decodes_of_settings? (isRead : settings? document = some settings) :
    Decodes document settings := by
  simp only [settings?, Option.bind_eq_bind, Option.bind_eq_some_iff] at isRead
  obtain ⟨daemon, daemonRead, logging, loggingRead, made⟩ := isRead
  split at made
  · cases made
    obtain ⟨program, programArgs, statusFile, timeoutSecs, projectDir⟩ :=
      distinct.holds_optional_daemon daemonRead
    exact ⟨program, programArgs, statusFile, timeoutSecs, projectDir,
      distinct.holds_optional_logging loggingRead⟩
  · cases made

end

/-- What the text of a file sets is what its document gives for each key. -/
theorem decodes_of_text {text : String} {document : Table} {settings : FileSettings}
    (isToml : Toml.Document.parse? text = some document)
    (isRead : settings? document = some settings) : Decodes document settings :=
  decodes_of_settings? (distinctKeys_of_parse? isToml) isRead

/-- Whether two parts are the same up to the order of their keys. -/
inductive SamePart : Value → Value → Prop where
  | refl (part : Value) : SamePart part part
  | keys (entries entries' : Table) (perm : entries.Perm entries') :
      SamePart (.table entries) (.table entries')

/-- Whether two documents are the same up to the order of their sections and the order of the keys
in each of these. -/
def Reordered (document document' : Table) : Prop :=
  ∃ middle : Table, List.Forall₂
    (fun entry entry' => entry'.1 = entry.1 ∧ SamePart entry.2 entry'.2) document middle ∧
      middle.Perm document'

theorem lookup_of_perm {entries entries' : Table} (distinct : Table.Distinct entries)
    (perm : entries.Perm entries') (key : String) : entries'.lookup key = entries.lookup key := by
  have distinct' : Table.Distinct entries' := ((perm.map Prod.fst).nodup_iff).mp distinct
  refine Option.ext fun value => ?_
  rw [distinct.lookup_eq_some_iff, distinct'.lookup_eq_some_iff, perm.mem_iff]

theorem optional_congr {α : Type} {read : Value → Option α} {entries entries' : Table}
    {key : String} (same : entries'.lookup key = entries.lookup key) :
    optional read entries' key = optional read entries key := by
  rw [optional, optional, same]

/-- A table is read as the section about the client by its values for the keys of that, and by
whether its further keys can be read. -/
theorem daemon?_congr {entries entries' : Table}
    (looked : ∀ key ∈ daemonKeys, entries'.lookup key = entries.lookup key)
    (others : othersReadable daemonKeys entries' = othersReadable daemonKeys entries) :
    daemon? (.table entries') = daemon? (.table entries) := by
  simp only [daemonKeys, List.forall_mem_cons] at looked
  obtain ⟨program, programArgs, statusFile, timeoutSecs, projectDir, -⟩ := looked
  simp only [daemon?, optional_congr program, optional_congr programArgs,
    optional_congr statusFile, optional_congr timeoutSecs, optional_congr projectDir]
  generalize othersReadable daemonKeys entries' = readable' at others
  subst others
  rfl

theorem logging?_congr {entries entries' : Table}
    (looked : ∀ key ∈ loggingKeys, entries'.lookup key = entries.lookup key)
    (others : othersReadable loggingKeys entries' = othersReadable loggingKeys entries) :
    logging? (.table entries') = logging? (.table entries) := by
  simp only [loggingKeys, List.forall_mem_cons] at looked
  simp only [logging?, optional_congr looked.1]
  generalize othersReadable loggingKeys entries' = readable' at others
  subst others
  rfl

theorem othersReadable_of_perm (fields : List (String × Kind)) {entries entries' : Table}
    (perm : entries.Perm entries') :
    othersReadable (fields.map Prod.fst) entries' =
      othersReadable (fields.map Prod.fst) entries := by
  rw [Bool.eq_iff_iff, othersReadable_iff, othersReadable_iff]
  simp only [perm.mem_iff]

/-- The order of the keys of a section does not matter. -/
theorem daemon?_of_samePart {part part' : Value} (distinct : DistinctPart part)
    (same : SamePart part part') : daemon? part' = daemon? part := by
  cases same with
  | refl => rfl
  | keys entries entries' perm =>
    exact daemon?_congr (fun key _ => lookup_of_perm (distinct entries rfl) perm key)
      (othersReadable_of_perm daemonFields perm)

theorem logging?_of_samePart {part part' : Value} (distinct : DistinctPart part)
    (same : SamePart part part') : logging? part' = logging? part := by
  cases same with
  | refl => rfl
  | keys entries entries' perm =>
    exact logging?_congr (fun key _ => lookup_of_perm (distinct entries rfl) perm key)
      (othersReadable_of_perm loggingFields perm)

/-- Documents with the same titles are read alike if their sections are. -/
theorem settings?_congr {document document' : Table}
    (daemon : optional daemon? document' "daemon" = optional daemon? document "daemon")
    (logging : optional logging? document' "logging" = optional logging? document "logging")
    (titles : ∀ title, title ∈ document'.map Prod.fst ↔ title ∈ document.map Prod.fst) :
    settings? document' = settings? document := by
  have titled : (document'.all fun entry => isSection entry.1) =
      document.all fun entry => isSection entry.1 := by
    have byTitles (document : Table) : (document.all fun entry => isSection entry.1) =
        (document.map Prod.fst).all isSection := by rw [List.all_map]; rfl
    rw [byTitles, byTitles, Bool.eq_iff_iff, List.all_eq_true, List.all_eq_true]
    simp only [titles]
  simp only [settings?, daemon, logging]
  generalize (document'.all fun entry => isSection entry.1) = all at titled
  subst titled
  rfl

/-- A section is looked up alike in documents that differ in the order of the keys of sections. -/
theorem optional_of_forall₂ {α : Type} {read : Value → Option α} {document middle : Table}
    (parts : ∀ title part, (title, part) ∈ document → DistinctPart part)
    (same : List.Forall₂ (fun entry entry' => entry'.1 = entry.1 ∧ SamePart entry.2 entry'.2)
      document middle)
    (alike : ∀ part part', DistinctPart part → SamePart part part' → read part' = read part)
    (title : String) : optional read middle title = optional read document title := by
  induction same with
  | nil => rfl
  | @cons entry entry' rest rest' first _ ih =>
    obtain ⟨key, part⟩ := entry
    obtain ⟨key', part'⟩ := entry'
    obtain ⟨rfl, samePart⟩ : key' = key ∧ SamePart part part' := first
    have later := ih fun title part member => parts title part (List.mem_cons_of_mem _ member)
    simp only [optional, List.lookup_cons] at later ⊢
    by_cases found : title == key'
    · simp only [found, alike part part' (parts _ _ List.mem_cons_self) samePart]
    · simpa only [found] using later

/-- Neither the order of the sections nor that of the keys in them matters. -/
theorem settings?_of_reordered {document document' : Table} (distinct : DistinctKeys document)
    (reordered : Reordered document document') : settings? document' = settings? document := by
  obtain ⟨middle, same, perm⟩ := reordered
  have titles : middle.map Prod.fst = document.map Prod.fst := by
    clear perm distinct
    induction same with
    | nil => rfl
    | cons first _ ih => rw [List.map_cons, List.map_cons, first.1, ih]
  have distinctMiddle : Table.Distinct middle := by
    rw [Table.Distinct, titles]
    exact distinct.titles
  refine settings?_congr ?_ ?_ fun title => ?_
  · rw [optional_congr (lookup_of_perm distinctMiddle perm _)]
    exact optional_of_forall₂ distinct.parts same (fun _ _ => daemon?_of_samePart) _
  · rw [optional_congr (lookup_of_perm distinctMiddle perm _)]
    exact optional_of_forall₂ distinct.parts same (fun _ _ => logging?_of_samePart) _
  · rw [← titles, (perm.map Prod.fst).mem_iff]

/-- Whether a part is another one with further keys, which can be read, or with further elements
after those for all keys. -/
inductive Extends (fields : List (String × Kind)) : Value → Value → Prop where
  | keys (entries more : Table)
      (further : ∀ key value, (key, value) ∈ more →
        key ∉ fields.map Prod.fst ∧ ¬ Unreadable value) :
      Extends fields (.table entries) (.table (entries ++ more))
  | items (items more : List Value) (whole : fields.length ≤ items.length) :
      Extends fields (.array items) (.array (items ++ more))

theorem lookup_of_further (fields : List (String × Kind)) {entries more : Table} {key : String}
    (known : key ∈ fields.map Prod.fst)
    (further : ∀ key value, (key, value) ∈ more → key ∉ fields.map Prod.fst ∧ ¬ Unreadable value) :
    (entries ++ more).lookup key = entries.lookup key := by
  have absent : more.lookup key = none :=
    Toml.lookup_eq_none_iff.mpr fun value member => (further key value member).1 known
  rw [List.lookup_append, absent, Option.or_none]

theorem othersReadable_of_further {fields : List (String × Kind)} {entries more : Table}
    (further : ∀ key value, (key, value) ∈ more → key ∉ fields.map Prod.fst ∧ ¬ Unreadable value) :
    othersReadable (fields.map Prod.fst) (entries ++ more) =
      othersReadable (fields.map Prod.fst) entries := by
  rw [Bool.eq_iff_iff, othersReadable_iff, othersReadable_iff]
  constructor
  · exact fun all key value member => all key value (List.mem_append_left _ member)
  · intro all key value member unknown
    obtain member | member := List.mem_append.mp member
    · exact all key value member unknown
    · exact (further key value member).2

theorem daemon?_of_extends {part part' : Value} (extended : Extends daemonFields part part') :
    daemon? part' = daemon? part := by
  cases extended with
  | keys entries more further =>
    exact daemon?_congr (fun key known => lookup_of_further daemonFields known further)
      (othersReadable_of_further further)
  | items items more whole =>
    match items, whole with
    | program :: programArgs :: statusFile :: timeoutSecs :: projectDir :: rest, _ => rfl

theorem logging?_of_extends {part part' : Value} (extended : Extends loggingFields part part') :
    logging? part' = logging? part := by
  cases extended with
  | keys entries more further =>
    exact logging?_congr (fun key known => lookup_of_further loggingFields known further)
      (othersReadable_of_further further)
  | items items more whole =>
    match items, whole with
    | verbose :: rest, _ => rfl

theorem optional_of_replaced {α : Type} {read : Value → Option α} {title key : String}
    {part part' : Value} (same : key = title → read part' = read part) (front back : Table) :
    optional read (front ++ (title, part') :: back) key =
      optional read (front ++ (title, part) :: back) key := by
  simp only [optional, List.lookup_append, List.lookup_cons]
  by_cases isTitle : key = title
  · subst isTitle
    cases front.lookup key <;> simp [same]
  · simp [beq_eq_false_iff_ne.mpr isTitle]

/-- Neither further keys of a section that can be read nor further elements matter. -/
theorem settings?_of_extends {title : String} {fields : List (String × Kind)} {part part' : Value}
    (isSection : (title, fields) ∈ sections) (extended : Extends fields part part')
    (front back : Table) :
    settings? (front ++ (title, part') :: back) = settings? (front ++ (title, part) :: back) := by
  refine settings?_congr (optional_of_replaced ?_ front back)
    (optional_of_replaced ?_ front back) fun key => by simp
  · rintro rfl
    obtain ⟨-, rfl⟩ | ⟨other, -⟩ := mem_sections_iff.mp isSection
    · exact daemon?_of_extends extended
    · simp at other
  · rintro rfl
    obtain ⟨other, -⟩ | ⟨-, rfl⟩ := mem_sections_iff.mp isSection
    · simp at other
    · exact logging?_of_extends extended

/-- Whether a setting is another one that has no file for its source. -/
structure IsUnfiled {α : Type} (setting base : Setting α) : Prop where
  eq_base : setting = base
  source_ne : ∀ path, setting.source ≠ .file path

/-- Whether every setting of a configuration that a file does not set is what it is without a file,
and does not name a file as its source. -/
structure LeavesUnset (overrides : Overrides) (settings : FileSettings) (config : Config) :
    Prop where
  program : settings.daemon.program = none →
    IsUnfiled config.program (merge overrides none).program
  programArgs : settings.daemon.programArgs = none →
    IsUnfiled config.programArgs (merge overrides none).programArgs
  statusFile : settings.daemon.statusFile = none →
    IsUnfiled config.statusFile (merge overrides none).statusFile
  timeoutSecs : settings.daemon.timeoutSecs = none →
    IsUnfiled config.timeoutSecs (merge overrides none).timeoutSecs
  projectDir : settings.daemon.projectDir = none →
    IsUnfiled config.projectDir (merge overrides none).projectDir
  verbose : settings.logging.verbose = none →
    IsUnfiled config.verbose (merge overrides none).verbose

/-- What a file does not set is the default, unless the command line gives it. -/
theorem isUnfiled_override {α : Type} (value : α) (path : Path) (given : Option α)
    {filed : Option α} (notSet : filed = none) :
    IsUnfiled (((Setting.byDefault value).override (.file path) filed).override .commandLine given)
      ((Setting.byDefault value).override .commandLine given) := by
  subst notSet
  cases given <;> exact ⟨rfl, nofun⟩

theorem leavesUnset_of_layered {overrides : Overrides} {settings : FileSettings} {config : Config}
    {path : Path} (layered : Layered overrides (some (path, settings)) config) :
    LeavesUnset overrides settings config := by
  obtain rfl := layered_iff.mp layered
  constructor
  · exact isUnfiled_override _ path _
  · exact isUnfiled_override _ path _
  · exact isUnfiled_override _ path _
  · intro notSet
    simp only [merge, ofFile, Option.elim_some, Option.elim_none, withOverrides, withFile,
      Setting.overrideSome_eq_override]
    exact isUnfiled_override none path _ (Option.map_eq_none_iff.mpr notSet)
  · intro notSet
    simp only [merge, ofFile, Option.elim_some, Option.elim_none, withOverrides, withFile,
      Setting.overrideSome_eq_override]
    exact isUnfiled_override none path _ (by rw [notSet]; rfl)
  · exact isUnfiled_override _ path _

/-- A document without a key that stands twice and without a date for a section is read as a
configuration exactly if each of its keys is the title of a section and each section has the form of
that: all known keys have the right types, and further keys can be read.  What is read is what is
given for each key.  The order of sections and keys, further keys that can be read and further
elements do not matter, and a key that is not given leaves its setting as it is without the file. -/
theorem sections_decoded (document : Table) (distinct : DistinctKeys document)
    (notDate : ∀ title ∈ ["daemon", "logging"], (title, Value.dateTime) ∉ document) :
    ((settings? document).isSome = true ↔ ∀ title part, (title, part) ∈ document →
      ∃ fields, (title, fields) ∈ sections ∧ HasForm fields part) ∧
    (∀ settings, settings? document = some settings → Decodes document settings ∧
      ∀ overrides path config, Layered overrides (some (path, settings)) config →
        LeavesUnset overrides settings config) ∧
    (∀ document', Reordered document document' → settings? document' = settings? document) ∧
    (∀ front back title fields part part', document = front ++ (title, part) :: back →
      (title, fields) ∈ sections → Extends fields part part' →
      settings? (front ++ (title, part') :: back) = settings? document) := by
  refine ⟨settings?_isSome_iff distinct notDate, fun settings isRead => ?_,
    fun document' => settings?_of_reordered distinct, ?_⟩
  · exact ⟨decodes_of_settings? distinct isRead, fun _ _ _ => leavesUnset_of_layered⟩
  · rintro front back title fields part part' rfl isSection extended
    exact settings?_of_extends isSection extended front back

/-- A table beside an array, each with more than the known keys: a float without digits, which can
be read, and behind all fields a number without a value, which nobody reads. -/
theorem sections_decoded_of_both :
    let document : Table :=
      [("logging", .array [.boolean true, .integer none]),
        ("daemon", .table [("x", .float none), ("timeout_secs", .integer (some (.ofNat 5)))])]
    let settings : FileSettings := ⟨⟨none, none, none, some 5, none⟩, ⟨some true⟩⟩
    DistinctKeys document ∧
      (∀ title ∈ ["daemon", "logging"], (title, Value.dateTime) ∉ document) ∧
      settings? document = some settings ∧ Decodes document settings ∧
      settings? document.reverse = some settings := by
  intro document settings
  have distinct : DistinctKeys document := by
    refine ⟨by unfold Table.Distinct; decide, fun title part member entries isTable => ?_⟩
    subst isTable
    obtain ⟨-, rfl⟩ : title = "daemon" ∧
        entries = [("x", .float none), ("timeout_secs", .integer (some (.ofNat 5)))] := by
      simpa [document] using member
    unfold Table.Distinct
    decide
  have notDate : ∀ title ∈ ["daemon", "logging"], (title, Value.dateTime) ∉ document := by
    simp [document]
  have isRead : settings? document = some settings := by decide +kernel
  obtain ⟨-, decoded, reordered, -⟩ := sections_decoded document distinct notDate
  refine ⟨distinct, notDate, isRead, (decoded settings isRead).1, ?_⟩
  rw [reordered document.reverse ⟨document, ?_, (List.reverse_perm document).symm⟩, isRead]
  exact List.forall₂_same.mpr fun entry _ => ⟨rfl, .refl entry.2⟩

/-- A further key makes a table unreadable as a section if its value is a float beyond the range:
the known key of the table has the right type, and the table without the further key is read.  Such
values do stand in documents, where they do no harm behind the fields of a section that is an
array. -/
theorem further_key_refused :
    let known : Table := [("program", .string "p")]
    let entries : Table := ("x", .float (some ⟨['1'], [], false, ['9', '9', '9']⟩)) :: known
    let document : Table := [("daemon", .table entries)]
    let text := "[daemon]\nx = 1e999\nprogram = \"p\""
    DistinctKeys document ∧
      (∀ title ∈ ["daemon", "logging"], (title, Value.dateTime) ∉ document) ∧
      (∀ field ∈ daemonFields, ∀ value, (field.1, value) ∈ entries → field.2.Admits value) ∧
      settings? [("daemon", .table known)] =
        some ⟨⟨some "p", none, none, none, none⟩, .empty⟩ ∧
      settings? document = none ∧
      (Toml.Document.parse? text).isSome = true ∧
      (Toml.Document.parse? text).bind settings? = none ∧
      ((Toml.Document.parse? "logging = [true, 1e999]\n").bind settings?).isSome = true := by
  intro known entries document text
  refine ⟨⟨by unfold Table.Distinct; decide, fun title part member parts isTable => ?_⟩,
    by simp [document], fun field member value isEntry => ?_, by decide +kernel, by decide +kernel,
    by decide +kernel, by decide +kernel, by decide +kernel⟩
  · subst isTable
    obtain ⟨-, rfl⟩ : title = "daemon" ∧ parts = entries := by simpa [document] using member
    unfold Table.Distinct
    decide
  · obtain ⟨isX, -⟩ | ⟨isProgram, rfl⟩ : (field.1 = "x" ∧ _) ∨
        (field.1 = "program" ∧ value = .string "p") := by simpa [entries, known] using isEntry
    · obtain ⟨key, kind⟩ := field
      subst isX
      simp [daemonFields] at member
    · obtain ⟨key, kind⟩ := field
      subst isProgram
      obtain rfl : kind = .text := by simpa [daemonFields] using member
      exact .text "p"

end Config.Schema

end EditorBridge
