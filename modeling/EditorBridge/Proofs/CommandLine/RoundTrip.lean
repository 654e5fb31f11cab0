import EditorBridge.Proofs.CommandLine.Reading
import EditorBridge.Proofs.Program.Stages

/-!
# Writing and reading a command line

Flags that are written in any order and spelling are read as what they are, and nothing else is
read as flags (`flags_round_trip`).  In particular, a flag that is given twice, an argument that is
no flag and a timeout that is no number of 64 bits are refused.
-/
namespace EditorBridge.CommandLine

open EditorBridge.Program

structure Flags.SpelledBy (flags : Flags) (items : List Written) : Prop where
  /-- No flag is written twice. -/
  once : (items.map Written.flag).Nodup
  /-- Each means what the flags say under its name. -/
  meant : ∀ item ∈ items, ∃ meaning, item.Means meaning ∧ flags.meaning? item.flag = some meaning
  /-- The flags say nothing else. -/
  silent : ∀ name ∉ items.map Written.flag, flags.meaning? name = .none
  /-- No value in an argument of its own looks like a flag. -/
  readable : ∀ item ∈ items, item.Readable

namespace Flags

variable {flags : Flags}

theorem spelledBy_iff {items : List Written} :
    flags.SpelledBy items ↔ Flags.none.takeAll items = .ok flags ∧
      ∀ item ∈ items, item.Readable := by
  rw [takeAll_eq_ok_iff]
  simp only [meaning?_none, true_and]
  exact ⟨fun spelled => ⟨⟨spelled.once, spelled.meant, spelled.silent⟩, spelled.readable⟩,
    fun ⟨⟨once, meant, silent⟩, readable⟩ => ⟨once, meant, silent, readable⟩⟩

/-- Read as flags is what spells them, with or without the end of the flags. -/
theorem read_eq_ok_iff {arguments : List Bytes} :
    read arguments = .ok flags ↔ ∃ items, flags.SpelledBy items ∧
      (arguments = Written.commandLine items ∨
        arguments = Written.commandLine items ++ [Word.endOfFlags.argument]) := by
  simp only [spelledBy_iff]
  constructor
  · intro accepted
    obtain ⟨items, readable, taken, written⟩ := leads_of_readFrom accepted
    exact ⟨items, ⟨taken, readable⟩, written⟩
  · rintro ⟨items, ⟨taken, readable⟩, rfl | rfl⟩
    · have ended : flawAhead? [] = .none := rfl
      have whole := readFrom_commandLine readable taken ended
      rwa [List.append_nil] at whole
    · have ended : flawAhead? [Word.endOfFlags.argument] = .none := rfl
      exact readFrom_commandLine readable taken ended

structure Style where
  /-- The options whose value is attached. -/
  attached : OptionName → Bool
  /-- Whether the wish for a verbose log is written by its letter. -/
  letter : Bool

def value? (flags : Flags) : OptionName → Option Bytes
  | .config => flags.config
  | .program => flags.program.map Utf8.encode
  | .statusFile => flags.statusFile.map Utf8.encode
  | .projectDir => flags.projectDir
  | .timeout => flags.timeout.map fun seconds => Utf8.encode (toString seconds)

def writtenOptions (flags : Flags) (style : Style) (names : List OptionName) : List Written :=
  names.filterMap fun name =>
    (flags.value? name).map fun value => Written.option name value (style.attached name)

def Style.verbose (style : Style) : Written :=
  if style.letter then Written.letterVerbose else Written.switch .verbose

def written (flags : Flags) (style : Style) : List Written :=
  flags.writtenOptions style [.config, .program, .statusFile, .projectDir, .timeout]
    ++ (if flags.printConfig then [Written.switch .printConfig] else [])
    ++ if flags.verbose then [style.verbose] else []

structure Writable (flags : Flags) : Prop where
  config : flags.config ≠ some []
  projectDir : flags.projectDir ≠ some []
  timeout : ∀ seconds, flags.timeout = some seconds → seconds < UInt64.size

/-- Whether a value that starts with a hyphen is always attached. -/
def Style.Suits (style : Style) (flags : Flags) : Prop :=
  ∀ name value, flags.value? name = some value → value.head? = some Word.hyphen →
    style.attached name = true

variable {style : Style}

theorem Style.flag_verbose (style : Style) : style.verbose.flag = .switch .verbose := by
  unfold verbose
  split <;> rfl

theorem mem_written_iff {item : Written} :
    item ∈ flags.written style ↔
      (∃ name value, flags.value? name = some value ∧
        item = .option name value (style.attached name)) ∨
      (flags.printConfig = true ∧ item = .switch .printConfig) ∨
      flags.verbose = true ∧ item = style.verbose := by
  have every (name : OptionName) :
      name ∈ [OptionName.config, .program, .statusFile, .projectDir, .timeout] := by
    cases name <;> decide
  simp only [written, writtenOptions, List.mem_append, List.mem_filterMap, Option.map_eq_some_iff,
    every, true_and, List.mem_ite_nil_right, List.mem_singleton, or_assoc, eq_comm (a := item)]

/-- All that the flags say is written. -/
theorem flag_mem_written {name : FlagName} {meaning : Meaning}
    (said : flags.meaning? name = some meaning) :
    name ∈ (flags.written style).map Written.flag := by
  have on {given : Bool} (said : (if given then some Meaning.given else .none) = some meaning) :
      given = true := by
    cases given with
    | true => rfl
    | false => cases said
  rw [List.mem_map]
  cases name with
  | option name =>
    have held : (flags.value? name).isSome = (flags.meaning? (.option name)).isSome := by
      cases name <;> simp [value?, meaning?]
    rw [said] at held
    obtain ⟨value, given⟩ := Option.isSome_iff_exists.mp held
    exact ⟨_, mem_written_iff.mpr (.inl ⟨name, value, given, rfl⟩), rfl⟩
  | switch name =>
    cases name with
    | printConfig => exact ⟨_, mem_written_iff.mpr (.inr (.inl ⟨on said, rfl⟩)), rfl⟩
    | verbose =>
      exact ⟨_, mem_written_iff.mpr (.inr (.inr ⟨on said, rfl⟩)), style.flag_verbose⟩
  | help => cases said
  | version => cases said

/-- What is written has all its names apart. -/
theorem nodup_written : ((flags.written style).map Written.flag).Nodup := by
  have options (names : List OptionName) :
      ((flags.writtenOptions style names).map Written.flag).Sublist
        (names.map FlagName.option) := by
    induction names with
    | nil => exact List.Sublist.slnil
    | cons name rest ih =>
      rw [writtenOptions, List.filterMap_cons]
      cases flags.value? name with
      | none => exact ih.cons _
      | some value => exact ih.cons_cons _
  have switch {given : Bool} {item : Written} :
      ((if given then [item] else []).map Written.flag).Sublist [item.flag] := by
    cases given <;> simp
  rw [written, List.map_append, List.map_append]
  refine (((options _).append switch).append (style.flag_verbose ▸ switch)).nodup ?_
  decide

/-- A value that is given means what the flags say. -/
theorem reads_of_value? (writable : flags.Writable) {name : OptionName} {value : Bytes}
    (given : flags.value? name = some value) :
    ∃ meaning, name.Reads value meaning ∧ flags.meaning? (.option name) = some meaning := by
  cases name with
  | config =>
    exact ⟨_, .config fun nil => writable.config (nil ▸ given), congrArg (Option.map _) given⟩
  | program =>
    obtain ⟨text, held, rfl⟩ := Option.map_eq_some_iff.mp given
    exact ⟨_, .program (Utf8.decode?_encode text), congrArg (Option.map _) held⟩
  | statusFile =>
    obtain ⟨text, held, rfl⟩ := Option.map_eq_some_iff.mp given
    exact ⟨_, .statusFile (Utf8.decode?_encode text), congrArg (Option.map _) held⟩
  | projectDir =>
    exact ⟨_, .projectDir fun nil => writable.projectDir (nil ▸ given),
      congrArg (Option.map _) given⟩
  | timeout =>
    obtain ⟨seconds, held, rfl⟩ := Option.map_eq_some_iff.mp given
    exact ⟨_, .timeout (isNumeral_toString (writable.timeout seconds held)),
      congrArg (Option.map _) held⟩

theorem spelledBy_written (writable : flags.Writable) (suits : style.Suits flags) :
    flags.SpelledBy (flags.written style) where
  once := nodup_written
  meant item member := by
    rcases mem_written_iff.mp member with ⟨name, value, given, rfl⟩ | ⟨given, rfl⟩ | ⟨given, rfl⟩
    · exact reads_of_value? writable given
    · exact ⟨.given, rfl, if_pos given⟩
    · refine ⟨.given, ?_, style.flag_verbose ▸ if_pos given⟩
      unfold Style.verbose
      split <;> rfl
  silent name absent := by
    cases said : flags.meaning? name with
    | none => rfl
    | some meaning => exact absurd (flag_mem_written said) absent
  readable item member := by
    rcases mem_written_iff.mp member with ⟨name, value, given, rfl⟩ | ⟨given, rfl⟩ | ⟨given, rfl⟩
    · intro apart
      refine .inl fun starts => ?_
      rw [suits name value given starts] at apart
      cases apart
    · exact trivial
    · unfold Style.verbose
      split <;> exact trivial

/-- The order does not matter. -/
theorem SpelledBy.perm {items others : List Written} (spelled : flags.SpelledBy items)
    (perm : others.Perm items) : flags.SpelledBy others where
  once := (perm.map Written.flag).nodup_iff.mpr spelled.once
  meant item member := spelled.meant item (perm.mem_iff.mp member)
  silent name absent := spelled.silent name fun member =>
    absent ((perm.map Written.flag).mem_iff.mpr member)
  readable item member := spelled.readable item (perm.mem_iff.mp member)

/-- Whether a run with arguments is over at once, as a misuse that is explained on stderr, with
exit status 2. -/
def Rejected (arguments : List Bytes) : Prop :=
  ∃ error, ∀ (ρ : Type) (launcher : Launcher ρ) (around : Surroundings) (site : Site ρ)
    (input : Bytes),
    let result := run launcher around site arguments input
    result = .refused site (misuseText error) ∧ result.status.number = 2

theorem Misused.rejected {arguments : List Bytes} (misused : Misused .none arguments) :
    Rejected arguments := by
  obtain ⟨error, refused⟩ := misused
  refine ⟨error, fun ρ launcher around site input => ?_⟩
  intro result
  have ended : result = .refused site (misuseText error) :=
    run_of_begin_over launcher around input (begin_of_refusal refused site)
  exact ⟨ended, congrArg (fun result => result.status.number) ended⟩

/-- Flags are read from what spells them and from nothing else; that is, from their writing in any
order, with each option's value attached or, unless it starts with a hyphen, in an argument of its
own.  Whatever comes before and after, a flag that is given twice, an argument that is no flag and a
timeout that is no number of 64 bits end the run with exit status 2. -/
theorem flags_round_trip :
    (∀ (flags : Flags) (style : Style) (items : List Written),
      flags.Writable → style.Suits flags → items.Perm (flags.written style) →
      read (Written.commandLine items) = .ok flags ∧
      flags.overrides =
        { configPath := flags.config
          program := flags.program
          statusFile := flags.statusFile
          projectDir := flags.projectDir
          timeoutSecs := flags.timeout
          verbose := some flags.verbose }) ∧
    (∀ (arguments : List Bytes) (flags : Flags),
      read arguments = .ok flags ↔ ∃ items, flags.SpelledBy items ∧
        (arguments = Written.commandLine items ∨
          arguments = Written.commandLine items ++ [Word.endOfFlags.argument])) ∧
    ∀ (before : List Written) (after : List Bytes),
      (∀ item : Written, item.flag ∈ before.map Written.flag →
        Rejected (Written.commandLine before ++ (item.arguments ++ after))) ∧
      (∀ more : Bytes, Rejected (Written.commandLine before ++
        (Word.letters (Utf8.encode "vv" ++ more)).argument :: after)) ∧
      (∀ argument : Bytes, argument.head? ≠ some Word.hyphen ∨ argument = [Word.hyphen] →
        Rejected (Written.commandLine before ++ argument :: after)) ∧
      (∀ argument : Bytes, Rejected (Written.commandLine before ++
        Word.endOfFlags.argument :: argument :: after)) ∧
      ∀ (value : Bytes) (attached : Bool), (∀ n, ¬ IsNumeral value n) →
        Rejected (Written.commandLine before ++
          ((Written.option .timeout value attached).arguments ++ after)) := by
  refine ⟨fun flags style items writable suits perm => ⟨?_, rfl⟩, fun _ _ => read_eq_ok_iff,
    fun before after => ⟨fun item again => ?_, fun more => ?_, fun argument positional => ?_,
      fun argument => ?_, fun value attached noNumeral => ?_⟩⟩
  · exact read_eq_ok_iff.mpr ⟨items, (spelledBy_written writable suits).perm perm, .inl rfl⟩
  · refine (misused_commandLine fun flags taken => misused_arguments ?_ after).rejected
    intro next twice
    obtain ⟨earlier, member, same⟩ := List.mem_map.mp again
    obtain ⟨-, meant, -⟩ := takeAll_eq_ok_iff.mp taken
    obtain ⟨-, meaning, -, said⟩ := meant earlier member
    rw [same, (take_eq_ok_iff.mp twice).1] at said
    cases said
  · exact (misused_commandLine fun flags _ => misused_letters more after).rejected
  · exact (misused_commandLine fun flags _ =>
      misused_of_isValue (isValue_iff.mpr positional) after).rejected
  · exact (misused_commandLine fun flags _ => misused_after_end argument after).rejected
  · refine (misused_commandLine fun flags _ => misused_arguments ?_ after).rejected
    intro next entered
    obtain ⟨-, _, means, -⟩ := take_eq_ok_iff.mp entered
    cases means with
    | timeout isNumeral => exact noNumeral _ isNumeral

/-- A value that looks like another flag, the greatest timeout and the letter, out of order; then
the letter once more, and a timeout that is too great. -/
theorem flags_round_trip_of_shuffled :
    let flags : Flags := { none with
      program := some "--verbose", timeout := some 18446744073709551615, verbose := true }
    let style : Style := ⟨fun name => name = .program, true⟩
    let timeout := Written.option .timeout (Utf8.encode "18446744073709551615") false
    let items := [.letterVerbose, timeout, .option .program (Utf8.encode "--verbose") true]
    let tooGreat := Utf8.encode "18446744073709551616"
    flags.Writable ∧ style.Suits flags ∧ items.Perm (flags.written style) ∧
      read (Written.commandLine items) = .ok flags ∧
      Rejected (Written.commandLine items ++ (Written.letterVerbose.arguments ++ [])) ∧
      (∀ n, ¬ IsNumeral tooGreat n) ∧
      Rejected (Written.commandLine [] ++
        ((Written.option .timeout tooGreat true).arguments ++ [])) := by
  intro flags style timeout items tooGreat
  obtain ⟨round_trip, -, rejected⟩ := flags_round_trip
  have writable : flags.Writable := by
    refine ⟨by decide, by decide, fun seconds given => ?_⟩
    obtain rfl := Option.some.inj given
    decide
  have suits : style.Suits flags := by
    intro name value given hyphen
    cases name with
    | program => rfl
    | timeout =>
      obtain rfl := Option.some.inj given
      exact absurd hyphen (by decide +kernel)
    | _ => cases given
  have shuffled : items.Perm (flags.written style) := by decide +kernel
  have noNumeral (n : Nat) : ¬ IsNumeral tooGreat n := by
    rw [← numberValue_eq_ok_iff]
    have refused : (numberValue tooGreat).toOption = .none := by decide +kernel
    intro accepted
    rw [accepted] at refused
    cases refused
  exact ⟨writable, suits, shuffled, (round_trip flags style items writable suits shuffled).1,
    (rejected items []).1 .letterVerbose (by decide), noNumeral,
    (rejected [] []).2.2.2.2 tooGreat true noNumeral⟩

end Flags

end EditorBridge.CommandLine
