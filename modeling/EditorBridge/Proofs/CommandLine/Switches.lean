import EditorBridge.CommandLine.Flags

/-!
# Switches that are not given

A command line is read from the front, and whatever was read before is carried along.  A switch that
no argument names is carried along as it was, and makes no difference to how the arguments are read
(`readFrom_put`).  So a switch in front of the arguments changes nothing but itself, provided that
it is not given again.
-/
namespace EditorBridge.CommandLine

/-- Whether a word names a switch, by its long name or by its letter in a cluster. -/
def Word.names (switch : SwitchName) : Word → Bool
  | .long name _ => FlagName.ofLong? name = some (.switch switch)
  | .letters cluster => cluster.any fun letter => FlagName.ofLetter? letter = some (.switch switch)
  | _ => false

/-- Whether arguments give a switch.  After the end of the flags nothing is given. -/
def gives (switch : SwitchName) (arguments : List Bytes) : Bool :=
  (arguments.takeWhile (Word.ofArgument · ≠ .endOfFlags)).any (Word.names switch ∘ Word.ofArgument)

section

variable {switch : SwitchName} {argument : Bytes} {rest : List Bytes}

theorem gives_cons (inFlags : Word.ofArgument argument ≠ .endOfFlags) :
    gives switch (argument :: rest) =
      ((Word.ofArgument argument).names switch || gives switch rest) := by
  simp [gives, inFlags]

/-- A value gives no switch. -/
theorem gives_cons_of_isValue (isValue : Flags.isValue argument = true) :
    gives switch (argument :: rest) = gives switch rest := by
  unfold Flags.isValue at isValue
  split at isValue
  · rename_i bytes word
    rw [gives_cons (by simp [word]), word]
    rfl
  · cases isValue

end

namespace Flags

def put (flags : Flags) (switch : SwitchName) (on : Bool) : Flags :=
  match switch with
  | .printConfig => { flags with printConfig := on }
  | .verbose => { flags with verbose := on }

variable (flags : Flags) (switch : SwitchName) (on : Bool)

/-- Options have nothing to do with switches. -/
theorem setOption_put (name : OptionName) (value : Bytes) :
    (flags.put switch on).setOption name value =
      (flags.setOption name value).map (put · switch on) := by
  cases switch <;> cases name <;>
  · simp only [put, setOption]
    generalize assignOnce _ _ = assigned
    cases assigned <;> rfl

/-- Switches have nothing to do with each other. -/
theorem setSwitch_put {name : SwitchName} (other : name ≠ switch) :
    (flags.put switch on).setSwitch name = (flags.setSwitch name).map (put · switch on) := by
  cases switch <;> cases name <;> try exact absurd rfl other
  · simp only [put, setSwitch]
    cases flags.verbose <;> rfl
  · simp only [put, setSwitch]
    cases flags.printConfig <;> rfl

theorem checked_map {α β : Type} (f : α → β) (result : Except UsageError α) :
    checked (result.map f) = (checked result).map f := by
  cases result <;> rfl

/-- What goes on in the same way with changed flags can be changed at the end instead. -/
theorem bind_map {change : Flags → Flags} {next : Flags → Except Refusal Flags}
    (same : ∀ flags, next (change flags) = (next flags).map change)
    (result : Except Refusal Flags) :
    result.map change >>= next = (result >>= next).map change := by
  cases result with
  | error refusal => rfl
  | ok flags => exact same flags

theorem readLetters_put (cluster : Bytes)
    (absent : (Word.letters cluster).names switch = false) :
    readLetters (flags.put switch on) cluster =
      (readLetters flags cluster).map (put · switch on) := by
  induction cluster generalizing flags with
  | nil => rfl
  | cons letter rest ih =>
    simp only [Word.names, List.any_cons, Bool.or_eq_false_iff, decide_eq_false_iff_not]
      at absent ih
    obtain ⟨other, absent⟩ := absent
    unfold readLetters
    split
    · rename_i name meaning
      have different : name ≠ switch := fun same => other (same ▸ meaning)
      rw [setSwitch_put _ _ _ different, checked_map]
      exact bind_map (fun flags => ih flags absent) _
    · rfl
    · rfl
    · rfl

/-- A switch that is not given is carried along to the end. -/
theorem readFrom_put (arguments : List Bytes) (absent : gives switch arguments = false) :
    readFrom (flags.put switch on) arguments =
      (readFrom flags arguments).map (put · switch on) := by
  induction flags, arguments using readFrom.induct with
  -- Where arguments are read on, the flags so far are changed in the same way on both sides.
  | case5 flags argument rest cluster word ih =>
    rw [gives_cons (by simp [word]), word, Bool.or_eq_false_iff] at absent
    simp only [readFrom, word]
    rw [readLetters_put flags switch on cluster absent.1]
    exact bind_map (fun flags => ih flags absent.2) _
  | case7 flags argument rest name option value known word ih =>
    rw [gives_cons (by simp [word]), Bool.or_eq_false_iff] at absent
    simp only [readFrom, word, known]
    rw [setOption_put, checked_map]
    exact bind_map (fun flags => ih flags absent.2) _
  | case10 flags argument name option known next after isValue sound word ih =>
    rw [gives_cons (by simp [word]), gives_cons_of_isValue isValue, Bool.or_eq_false_iff] at absent
    simp only [readFrom, word, known, isValue, sound, if_true]
    rw [setOption_put, checked_map]
    exact bind_map (fun flags => ih flags absent.2) _
  | case13 flags argument rest name other known word ih =>
    rw [gives_cons (by simp [word]), word, Bool.or_eq_false_iff] at absent
    have different : other ≠ switch := by
      rintro rfl
      simp [Word.names, known] at absent
    simp only [readFrom, word, known]
    rw [setSwitch_put _ _ _ different, checked_map]
    exact bind_map (fun flags => ih flags absent.2) _
  -- Elsewhere reading ends, and a refusal does not depend on the flags so far.
  | case12 flags argument rest name flag value noOption known word =>
    cases flag with
    | option option => exact absurd rfl (noOption option)
    | _ => simp [readFrom, word, known, Except.map]
  | case1 | case2 | case3 | case4 | case6 | case8 | case9 | case11 | case14 | case15 =>
    simp [readFrom, Except.map, *]

/-- A switch that is not given stays off. -/
theorem read_put {arguments : List Bytes} (absent : gives switch arguments = false) :
    read arguments = (read arguments).map (put · switch false) := by
  have carried := readFrom_put none switch false arguments absent
  have off : none.put switch false = none := by cases switch <;> rfl
  rwa [off] at carried

/-- A wish for a verbose log in front of arguments without one. -/
theorem read_cons_verbose {arguments : List Bytes} (absent : gives .verbose arguments = false) :
    read (Utf8.encode "-v" :: arguments) = (read arguments).map (put · .verbose true) := by
  have front : read (Utf8.encode "-v" :: arguments) = readFrom (none.put .verbose true) arguments :=
    rfl
  rw [front, readFrom_put _ _ _ _ absent, read]

end Flags

end EditorBridge.CommandLine
