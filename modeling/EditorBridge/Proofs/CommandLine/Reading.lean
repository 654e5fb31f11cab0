import EditorBridge.Proofs.CommandLine.Spelling

/-!
# Reading written flags

A command line of written flags is read one flag after the other: a flag is taken in unless there is
something wrong with it or at first sight with what comes next (`readFrom_arguments`).  So written
flags that can be taken in are read (`readFrom_commandLine`), nothing else is read as flags
(`leads_of_readFrom`), and what is a misuse after some written flags is one whatever these were
(`misused_commandLine`).
-/
namespace EditorBridge.CommandLine

namespace Word

theorem argument_splitValue (bytes : Bytes) :
    (long (splitValue bytes).1 (splitValue bytes).2).argument = hyphen :: hyphen :: bytes := by
  have joined : (splitValue bytes).1 ++ (splitValue bytes).2.elim [] (equals :: ·) = bytes := by
    induction bytes with
    | nil => rfl
    | cons b rest ih =>
      rw [splitValue]
      split
      · rename_i same
        rw [same]
        rfl
      · exact congrArg (b :: ·) ih
  rw [← congrArg (hyphen :: hyphen :: ·) joined]
  cases (splitValue bytes).2 with
  | none => rw [argument, Option.elim_none, List.append_nil]
  | some value => rfl

/-- An argument is written like the word that it is. -/
theorem argument_ofArgument (argument : Bytes) : (ofArgument argument).argument = argument := by
  unfold ofArgument
  split
  · rfl
  · exact argument_splitValue _
  · rfl
  · rfl
  · rfl

theorem argument_of_eq {argument : Bytes} {word : Word} (isWord : ofArgument argument = word) :
    word.argument = argument := isWord ▸ argument_ofArgument argument

theorem ofArgument_long {name : Bytes} (ne_nil : name ≠ []) (plain : equals ∉ name)
    (value : Option Bytes) : ofArgument (long name value).argument = long name value := by
  obtain ⟨b, rest, rfl⟩ := List.exists_cons_of_ne_nil ne_nil
  cases value with
  | none =>
    have whole := splitValue_of_not_mem _ plain
    simp only [argument, ofArgument, hyphen, whole]
  | some value =>
    have whole := splitValue_append _ value plain
    simp only [List.cons_append] at whole
    simp only [argument, List.cons_append, ofArgument, hyphen, whole]

end Word

/-- What stands for itself does not start with a hyphen, or is one. -/
theorem Flags.isValue_iff {argument : Bytes} :
    isValue argument = true ↔ argument.head? ≠ some Word.hyphen ∨ argument = [Word.hyphen] := by
  unfold isValue Word.ofArgument Word.hyphen
  split
  · rename_i word
    split at word <;> simp_all [List.head?_eq_some_iff]
  · rename_i other
    split at other <;> simp_all

namespace FlagName

theorem ofLong?_long (flag : FlagName) : ofLong? (Utf8.encode flag.long) = some flag := by
  rcases flag with (_ | _ | _ | _ | _) | (_ | _) | _ | _ <;> decide +kernel

/-- A flag has one long name. -/
theorem ofLong?_eq_some_iff {name : Bytes} {flag : FlagName} :
    ofLong? name = some flag ↔ name = Utf8.encode flag.long := by
  constructor
  · intro known
    have names : ∀ entry ∈ longNames, entry.1 = entry.2.long := by decide +kernel
    obtain ⟨entry, found, rfl⟩ := Option.map_eq_some_iff.mp known
    have called := List.find?_some found
    rw [decide_eq_true_eq] at called
    rw [← called, names entry (List.mem_of_find?_eq_some found)]
  · rintro rfl
    exact ofLong?_long flag

theorem argument_of_known {argument name : Bytes} {value : Option Bytes} {flag : FlagName}
    (isWord : Word.ofArgument argument = .long name value) (known : ofLong? name = some flag) :
    (Word.long (Utf8.encode flag.long) value).argument = argument :=
  ofLong?_eq_some_iff.mp known ▸ Word.argument_of_eq isWord

theorem ofLetter?_v : ofLetter? 0x76 = some (.switch .verbose) := by decide +kernel

/-- The only letter of a switch is that of the wish for a verbose log. -/
theorem of_ofLetter?_eq_switch {letter : UInt8} {name : SwitchName}
    (known : ofLetter? letter = some (.switch name)) :
    [letter] = Utf8.encode "v" ∧ name = .verbose := by
  obtain ⟨entry, found, meant⟩ := Option.map_eq_some_iff.mp known
  have called := List.find?_some found
  rw [decide_eq_true_eq] at called
  have member := List.mem_of_find?_eq_some found
  rw [letterNames] at member
  simp only [List.mem_cons, List.not_mem_nil, or_false] at member
  rcases member with rfl | rfl | rfl
  · exact ⟨called.symm, (FlagName.switch.inj meant).symm⟩
  · cases meant
  · cases meant

theorem ofArgument_long (flag : FlagName) (value : Option Bytes) :
    Word.ofArgument (Word.long (Utf8.encode flag.long) value).argument =
      .long (Utf8.encode flag.long) value := by
  refine Word.ofArgument_long ?_ ?_ value <;>
    rcases flag with (_ | _ | _ | _ | _) | (_ | _) | _ | _ <;> decide +kernel

end FlagName

namespace Written

/-- Whether a written flag is read as such: a value in an argument of its own does not look like a
flag. -/
def Readable : Written → Prop
  | option _ value attached =>
      attached = false → value.head? ≠ some Word.hyphen ∨ value = [Word.hyphen]
  | switch _ => True
  | letterVerbose => True

/-- What is wrong with a written flag and what comes next, before it is taken in. -/
def complaint? (item : Written) (after : List Bytes) : Option UsageError :=
  match item with
  | option _ value false =>
      if Flags.isValue value then Flags.flawAhead? after
      else some ((Flags.flawAhead? (value :: after)).getD .missingValue)
  | _ => none

@[simp] theorem commandLine_cons (item : Written) (rest : List Written) :
    commandLine (item :: rest) = item.arguments ++ commandLine rest := rfl

theorem complaint?_eq_none {item : Written} {after : List Bytes} (readable : item.Readable)
    (sound : Flags.flawAhead? after = none) : item.complaint? after = none := by
  cases item with
  | option name value attached =>
    cases attached with
    | true => rfl
    | false => rw [complaint?, if_pos (Flags.isValue_iff.mpr (readable rfl)), sound]
  | switch name => rfl
  | letterVerbose => rfl

/-- A written flag is nothing to complain about at first sight. -/
theorem flawAhead?_arguments (item : Written) (more : List Bytes) :
    Flags.flawAhead? (item.arguments ++ more) = none := by
  have named (flag : FlagName) (value : Option Bytes) (rest : List Bytes)
      (fits : (∃ name, flag = .option name) ∨ value = none) :
      Flags.flawAhead? ((Word.long (Utf8.encode flag.long) value).argument :: rest) = none := by
    rw [Flags.flawAhead?, flag.ofArgument_long, if_neg nofun, Flags.flaw?, flag.ofArgument_long]
    simp only [flag.ofLong?_long]
    rcases fits with ⟨name, rfl⟩ | rfl
    · rfl
    · cases flag <;> rfl
  cases item with
  | option name value attached =>
    cases attached with
    | true => exact named (.option name) (some value) more (.inl ⟨name, rfl⟩)
    | false => exact named (.option name) none (value :: more) (.inl ⟨name, rfl⟩)
  | switch name => exact named (.switch name) none more (.inr rfl)
  | letterVerbose => rfl

theorem flawAhead?_commandLine {items : List Written} {after : List Bytes}
    (sound : Flags.flawAhead? after = none) :
    Flags.flawAhead? (commandLine items ++ after) = none := by
  cases items with
  | nil => exact sound
  | cons item rest =>
    rw [commandLine_cons, List.append_assoc]
    exact item.flawAhead?_arguments _

end Written

namespace Flags

open Written

variable {start flags : Flags}

/-- Flags that come of a sequence have gone through all of it. -/
theorem of_bind_eq_ok {result : Except Refusal Flags} {next : Flags → Except Refusal Flags}
    (accepted : result >>= next = .ok flags) :
    ∃ middle, result = .ok middle ∧ next middle = .ok flags := by
  cases result with
  | error refusal => cases accepted
  | ok middle => exact ⟨middle, rfl, accepted⟩

theorem of_checked_bind_eq_ok {result : Except UsageError Flags}
    {next : Flags → Except Refusal Flags} (accepted : checked result >>= next = .ok flags) :
    ∃ middle, result = .ok middle ∧ next middle = .ok flags := by
  obtain ⟨middle, passed, others⟩ := of_bind_eq_ok accepted
  cases result with
  | error error => cases passed
  | ok flags => exact ⟨middle, congrArg _ (Except.ok.inj passed), others⟩

/-- A written flag is taken in, unless it or what comes next is wrong at first sight. -/
theorem readFrom_arguments (item : Written) (after : List Bytes) :
    readFrom start (item.arguments ++ after) =
      (item.complaint? after).elim (checked (start.take item) >>= fun next => readFrom next after)
        fun error => .error (.misuse error) := by
  cases item with
  | option name value attached =>
    have known := (FlagName.option name).ofLong?_long
    cases attached with
    | true =>
      have word := (FlagName.option name).ofArgument_long (some value)
      simp only [arguments, words, List.map_cons, List.map_nil, List.cons_append, List.nil_append,
        readFrom, word, known]
      rfl
    | false =>
      have word := (FlagName.option name).ofArgument_long .none
      change readFrom start (_ :: value :: after) = _
      simp only [readFrom, word, known, complaint?]
      split
      · cases flawAhead? after <;> rfl
      · rfl
  | switch name =>
    have known := (FlagName.switch name).ofLong?_long
    have word := (FlagName.switch name).ofArgument_long .none
    simp only [arguments, words, List.map_cons, List.map_nil, List.cons_append, List.nil_append,
      readFrom, word, known]
    rfl
  | letterVerbose =>
    have letters : start.readLetters (Utf8.encode "v") = checked (start.setSwitch .verbose) := by
      change start.readLetters [0x76] = _
      simp only [readLetters, FlagName.ofLetter?_v]
      cases checked (start.setSwitch .verbose) <;> rfl
    have word : Word.ofArgument (Word.letters (Utf8.encode "v")).argument =
      .letters (Utf8.encode "v") := rfl
    change readFrom start (_ :: after) = _
    simp only [readFrom, word, letters]
    rfl

/-- Written flags that are taken in are read, whatever else is read then. -/
theorem readFrom_commandLine {items : List Written} {after : List Bytes}
    (readable : ∀ item ∈ items, item.Readable) (taken : start.takeAll items = .ok flags)
    (sound : flawAhead? after = .none) :
    readFrom start (commandLine items ++ after) = readFrom flags after := by
  induction items generalizing start with
  | nil =>
    obtain rfl := Except.ok.inj taken
    rfl
  | cons item rest ih =>
    rw [List.forall_mem_cons] at readable
    obtain ⟨middle, entered, others⟩ := takeAll_cons_eq_ok_iff.mp taken
    rw [commandLine_cons, List.append_assoc, readFrom_arguments,
      complaint?_eq_none readable.1 (flawAhead?_commandLine sound), Option.elim_none, entered]
    exact ih readable.2 others

/-- What has been taken in is not taken in again. -/
theorem take_ne_ok_of_take {item again : Written} (taken : start.take item = .ok flags)
    (same : again.flag = item.flag) (next : Flags) : flags.take again ≠ .ok next := by
  intro twice
  obtain ⟨-, _, -, said⟩ := take_eq_ok_iff.mp taken
  have free := (take_eq_ok_iff.mp twice).1
  rw [said, same, Function.update_self] at free
  cases free

/-- A cluster of letters that is taken in is the wish for a verbose log. -/
theorem letters_of_readLetters_eq_ok {cluster : Bytes} (ne_nil : cluster ≠ [])
    (accepted : start.readLetters cluster = .ok flags) :
    cluster = Utf8.encode "v" ∧ start.take .letterVerbose = .ok flags := by
  have first {start : Flags} {letter : UInt8} {rest : Bytes}
      (accepted : start.readLetters (letter :: rest) = .ok flags) :
      [letter] = Utf8.encode "v" ∧ ∃ next, start.take .letterVerbose = .ok next ∧
        next.readLetters rest = .ok flags := by
    unfold readLetters at accepted
    split at accepted
    · rename_i name known
      obtain ⟨written, rfl⟩ := FlagName.of_ofLetter?_eq_switch known
      obtain ⟨next, turned, others⟩ := of_checked_bind_eq_ok accepted
      exact ⟨written, next, turned, others⟩
    · cases accepted
    · cases accepted
    · cases accepted
  obtain ⟨letter, rest, rfl⟩ := List.exists_cons_of_ne_nil ne_nil
  obtain ⟨written, next, turned, others⟩ := first accepted
  cases rest with
  | nil =>
    obtain rfl := Except.ok.inj others
    exact ⟨written, turned⟩
  | cons second more =>
    -- A second letter is the same one again.
    obtain ⟨-, last, again, -⟩ := first others
    exact absurd again (take_ne_ok_of_take turned rfl last)

/-- Whether arguments lead from flags to flags, as written flags and perhaps the end of the
flags. -/
def Leads (start flags : Flags) (arguments : List Bytes) : Prop :=
  ∃ items, (∀ item ∈ items, item.Readable) ∧ start.takeAll items = .ok flags ∧
    (arguments = commandLine items ∨
      arguments = commandLine items ++ [Word.endOfFlags.argument])

theorem Leads.cons (item : Written) {middle : Flags} {rest : List Bytes}
    (readable : item.Readable) (entered : start.take item = .ok middle)
    (leads : middle.Leads flags rest) : start.Leads flags (item.arguments ++ rest) := by
  obtain ⟨items, others, taken, written⟩ := leads
  refine ⟨item :: items, List.forall_mem_cons.mpr ⟨readable, others⟩,
    takeAll_cons_eq_ok_iff.mpr ⟨middle, entered, taken⟩, ?_⟩
  rw [commandLine_cons, List.append_assoc]
  exact written.imp (congrArg _) (congrArg _)

/-- Whatever is read as flags is written flags. -/
theorem leads_of_readFrom {arguments : List Bytes}
    (accepted : readFrom start arguments = .ok flags) : start.Leads flags arguments := by
  induction start, arguments using readFrom.induct with
  -- The arguments end, or the flags do.
  | case1 start =>
    obtain rfl := Except.ok.inj accepted
    exact ⟨[], nofun, rfl, .inl rfl⟩
  | case2 start argument word =>
    have written := Word.argument_of_eq word
    simp only [readFrom, word, if_true] at accepted
    obtain rfl := Except.ok.inj accepted
    exact ⟨[], nofun, rfl, .inr (congrArg (fun argument => [argument]) written.symm)⟩
  -- A flag is taken in: it is written as the word that it was read from.
  | case5 start argument rest cluster word ih =>
    have written := Word.argument_of_eq word
    have ne_nil : cluster ≠ [] := by
      rintro rfl
      rw [← written] at word
      cases word
    simp only [readFrom, word] at accepted
    obtain ⟨middle, letters, others⟩ := of_bind_eq_ok accepted
    obtain ⟨rfl, entered⟩ := letters_of_readLetters_eq_ok ne_nil letters
    rw [← written]
    exact .cons .letterVerbose trivial entered (ih middle others)
  | case7 start argument rest name option value known word ih =>
    simp only [readFrom, word, known] at accepted
    obtain ⟨middle, entered, others⟩ := of_checked_bind_eq_ok accepted
    rw [← FlagName.argument_of_known word known]
    exact .cons (.option option value true) nofun entered (ih middle others)
  | case10 start argument name option known next after isValue sound word ih =>
    simp only [readFrom, word, known, isValue, sound, if_true] at accepted
    obtain ⟨middle, entered, others⟩ := of_checked_bind_eq_ok accepted
    rw [← FlagName.argument_of_known word known]
    exact .cons (.option option next false) (fun _ => isValue_iff.mp isValue) entered
      (ih middle others)
  | case13 start argument rest name other known word ih =>
    simp only [readFrom, word, known] at accepted
    obtain ⟨middle, entered, others⟩ := of_checked_bind_eq_ok accepted
    rw [← FlagName.argument_of_known word known]
    exact .cons (.switch other) trivial entered (ih middle others)
  -- Elsewhere the arguments are refused.
  | case12 start argument rest name flag value noOption known word =>
    cases flag with
    | option option => exact absurd rfl (noOption option)
    | _ => simp [readFrom, word, known] at accepted
  | case3 | case4 | case6 | case8 | case9 | case11 | case14 | case15 =>
    simp [readFrom, *] at accepted

def Misused (start : Flags) (arguments : List Bytes) : Prop :=
  ∃ error, readFrom start arguments = .error (.misuse error)

/-- A written flag that is not taken in is a misuse. -/
theorem misused_arguments {item : Written} (refused : ∀ next, start.take item ≠ .ok next)
    (after : List Bytes) : Misused start (item.arguments ++ after) := by
  rw [Misused, readFrom_arguments]
  cases item.complaint? after with
  | some error => exact ⟨error, rfl⟩
  | none =>
    cases taken : start.take item with
    | error error => exact ⟨error, rfl⟩
    | ok next => exact absurd taken (refused next)

/-- What is a misuse after written flags is one when they come before it. -/
theorem misused_commandLine {items : List Written} {rest : List Bytes}
    (misused : ∀ flags, start.takeAll items = .ok flags → Misused flags rest) :
    Misused start (commandLine items ++ rest) := by
  induction items generalizing start with
  | nil => exact misused start rfl
  | cons item more ih =>
    rw [commandLine_cons, List.append_assoc]
    cases taken : start.take item with
    | error error => exact misused_arguments (by simp [taken]) _
    | ok next =>
      obtain ⟨error, refused⟩ := ih fun flags others =>
        misused flags (takeAll_cons_eq_ok_iff.mpr ⟨next, taken, others⟩)
      rw [Misused, readFrom_arguments, taken]
      cases item.complaint? (commandLine more ++ rest) with
      | some error => exact ⟨error, rfl⟩
      | none => exact ⟨error, refused⟩

/-- The bridge takes no arguments but its flags. -/
theorem misused_of_isValue {argument : Bytes} (positional : isValue argument = true)
    (after : List Bytes) : Misused flags (argument :: after) := by
  unfold isValue at positional
  split at positional
  · rename_i word
    exact ⟨.unknown, by simp only [readFrom, word]⟩
  · cases positional

theorem misused_after_end (argument : Bytes) (after : List Bytes) :
    Misused flags (Word.endOfFlags.argument :: argument :: after) := by
  have word : Word.ofArgument Word.endOfFlags.argument = .endOfFlags := rfl
  exact ⟨.unknown, by simp only [readFrom, word, reduceCtorEq, if_false]⟩

/-- A letter is given once in a cluster. -/
theorem misused_letters (more : Bytes) (after : List Bytes) :
    Misused flags ((Word.letters (Utf8.encode "vv" ++ more)).argument :: after) := by
  have word : Word.ofArgument (Word.letters (Utf8.encode "vv" ++ more)).argument =
    .letters (0x76 :: 0x76 :: more) := rfl
  rw [Misused, readFrom]
  simp only [word, readLetters, FlagName.ofLetter?_v]
  cases first : flags.setSwitch .verbose with
  | error error => exact ⟨error, rfl⟩
  | ok next =>
    have taken : flags.take .letterVerbose = .ok next := first
    have again : Written.letterVerbose.flag = Written.letterVerbose.flag := rfl
    cases second : next.setSwitch .verbose with
    | error error =>
      refine ⟨error, ?_⟩
      simp only [checked, Except.mapError, bind, Except.bind]
      rw [second]
    | ok last => exact absurd second (take_ne_ok_of_take taken again last)

end Flags

end EditorBridge.CommandLine
