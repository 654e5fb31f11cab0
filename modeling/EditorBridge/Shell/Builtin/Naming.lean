import EditorBridge.Shell.Builtin.Basic

/-!
# Commands of the shell about names and options

Variables, aliases, options, and the arguments of the shell itself.
-/
namespace EditorBridge.Shell.Builtin

open Host Act

/-- Mark variables, which may get values; or show those that are marked. -/
def declare (word : String) (isMarked : Variable → Bool) (mark : Variable → Variable) : Builtin :=
  fun arguments => do
    let (found, names) ← takeOptions [('p', false)] arguments
    if found.isEmpty && !names.isEmpty then
      for argument in names do
        let (name, value) ← assignmentIn argument
        match value with
        | some value => setVariable name value
        | none => pure ()
        Shell.mark mark name
    else
      for (name, entry) in sortedBindings (← memory).bindings isMarked do
        say (declaration (word ++ " ").toList name entry.value)
    return 0

/-- Tell other programs of variables. -/
def export' : Builtin :=
  declare "export" (·.isExported) fun entry => { entry with isExported := true }

/-- Let variables not be changed any more. -/
def readonly : Builtin :=
  declare "readonly" (·.isReadOnly) fun entry => { entry with isReadOnly := true }

/-- Let variables be as before at the end of the function. -/
def declareHere : Builtin := fun arguments => do
  if !(← memory).inFunction then Shell.fail "not in a function".toList
  for argument in arguments do
    if argument = ['-'] then saveOptions
    else
      let (name, value) ← assignmentIn argument
      save name
      match value with
      | some value => setVariable name value
      | none => pure ()
  return 0

/-- Take variables or functions away. -/
def unset : Builtin := fun arguments => do
  let (found, names) ← takeOptions [('v', false), ('f', false)] arguments
  let ofFunctions := (found.getLast?.map (·.1)) = some 'f'
  for name in names do
    if !ofFunctions then
      let _ ← assignmentIn name
      unsetVariable name
    else modifyMemory fun memory =>
      { memory with functions := memory.functions.filter (·.1 ≠ name) }
  return 0

def aliasLine (name value : Raw) : Raw := declaration [] name (some value)

def alias' : Builtin := fun arguments => do
  if arguments.isEmpty then
    let aliases := (← memory).aliases
    for index in List.range Memory.rowCount do
      for (name, value) in aliases do
        if Memory.row name = index then say (aliasLine name value)
    return 0
  let mut status := 0
  for argument in arguments do
    let name := argument.take 1 ++ (argument.drop 1).takeWhile (· ≠ '=')
    match argument.drop name.length with
    | '=' :: value => modifyMemory fun memory =>
        let known := memory.aliases.any (·.1 = name)
        { memory with
          aliases := if known then
              memory.aliases.map fun entry => if entry.1 = name then (name, value) else entry
            else memory.aliases ++ [(name, value)] }
    | _ =>
        match (← memory).aliases.lookup name with
        | some value => say (aliasLine name value)
        | none => do
            write 2 ("alias: ".toList ++ name ++ " not found\n".toList)
            status := 1
  return status

def unalias : Builtin := fun arguments => do
  let (found, names) ← takeOptions [('a', false)] arguments
  if !found.isEmpty then
    modifyMemory fun memory => { memory with aliases := [] }
    return 0
  let mut status := 0
  for name in names do
    if (← memory).aliases.any (·.1 = name) then
      modifyMemory fun memory =>
        { memory with aliases := memory.aliases.filter (·.1 ≠ name) }
    else
      write 2 ("unalias: ".toList ++ name ++ " not found\n".toList)
      status := 1
  return status

def listOptions (asCommands : Bool) : Act Unit := do
  if !asCommands then sayLine "Current option settings".toList
  for (letter, name) in Memory.allOptions do
    let on := (← memory).isOn letter
    if asCommands then
      sayLine ((if on then "set -o " else "set +o ").toList ++ name.toList)
    else
      sayLine (name.toList ++ List.replicate (16 - name.length) ' ' ++
        (if on then "on" else "off").toList)

def setNamedOption (on : Bool) (name : Raw) : Act Unit := do
  match Memory.allOptions.find? fun option => option.2.toList = name with
  | some (letter, _) => modifyMemory (·.setOption letter on)
  | none => Shell.fail ("Illegal option -o ".toList ++ name)

def setLetterOption (on : Bool) (letter : Char) : Act Unit := do
  if Memory.optionNames.any (·.1 = letter) then modifyMemory (·.setOption letter on)
  else Shell.fail ("Illegal option -".toList ++ [letter])

/-- Set the options that the letters of one argument mean; each letter for a name takes an argument.
-/
def setLetters (on : Bool) : Raw → List Raw → Act (List Raw)
  | [], rest => return rest
  | 'o' :: letters, rest => do
      match rest with
      | [] => do
          listOptions (!on)
          setLetters on letters []
      | name :: rest => do
          setNamedOption on name
          setLetters on letters rest
  | letter :: letters, rest => do
      setLetterOption on letter
      setLetters on letters rest

def setArguments (arguments : List Raw) : Act Unit :=
  modifyMemory fun memory => { memory with arguments, place := ⟨1, none⟩ }

/-- Set the options in front of arguments, and give the other arguments; two hyphens alone are those
arguments themselves. -/
def setOptions : Nat → List Raw → Act (List Raw)
  | 0, arguments => return arguments
  | _, [] => return []
  | fuel + 1, argument :: rest =>
      match argument with
      | ['-'] => do
          modifyMemory fun memory => (memory.setOption 'x' false).setOption 'v' false
          return rest
      | ['-', '-'] => do
          if rest.isEmpty then setArguments []
          return rest
      | '-' :: letters => do setOptions fuel (← setLetters true letters rest)
      | '+' :: letters => do setOptions fuel (← setLetters false letters rest)
      | argument => return argument :: rest

/-- Set options and arguments, or show all variables. -/
def set : Builtin := fun arguments => do
  if arguments.isEmpty then
    for (name, entry) in sortedBindings (← memory).bindings (·.value.isSome) do
      say (declaration [] name entry.value)
    return 0
  match ← setOptions (arguments.length + 1) arguments with
  | [] => return 0
  | arguments => do
      setArguments arguments
      return 0

def optionKind? (letter : Char) : Raw → Option Bool
  | [] => none
  | c :: ':' :: rest => if c = letter then some true else optionKind? letter rest
  | c :: rest => if c = letter then some false else optionKind? letter rest

/-- Set a variable that goes with the options of a script. -/
def setQuietly (name value : Raw) : Act Unit := do
  insistOnChange name
  modifyMemory fun memory =>
    memory.putVariable name { memory.entry name with value := some value }

/-- One option taken from arguments: its letter, and the place after it.  No letter means that there
are no more options. -/
def nextOption (letters : Raw) (arguments : List Raw) (place : OptionPlace) :
    Act (Option Char × OptionPlace) := do
  let started := match place.offset with
    | some offset =>
        if 1 < place.index then ((arguments[place.index - 2]?).getD []).drop offset else []
    | none => []
  let begin? : Option (Raw × Nat) := match started, arguments[place.index - 1]? with
    | c :: rest, _ => some (c :: rest, place.index)
    | [], some ('-' :: '-' :: []) => none
    | [], some ('-' :: c :: rest) => some (c :: rest, place.index + 1)
    | [], _ => none
  let quiet := letters.head? = some ':'
  match begin? with
  | none | some ([], _) =>
      let index := if arguments[place.index - 1]? = some ['-', '-'] && started = [] then
        place.index + 1 else place.index
      return (none, ⟨index, none⟩)
  | some (letter :: rest, index) =>
      let offset : Option Nat :=
        some (((arguments[index - 2]?).getD []).length - rest.length)
      match optionKind? letter letters with
      | none => do
          if quiet then setQuietly "OPTARG".toList [letter]
          else
            write 2 ("Illegal option -".toList ++ letter :: ['\n'])
            unsetVariable "OPTARG".toList
          return (some '?', ⟨index, offset⟩)
      | some false => do
          setQuietly "OPTARG".toList []
          return (some letter, ⟨index, offset⟩)
      | some true =>
          match rest, arguments[index - 1]? with
          | [], none => do
              if quiet then
                setQuietly "OPTARG".toList [letter]
                return (some ':', ⟨index, offset⟩)
              else
                write 2 ("No arg for -".toList ++ letter :: " option\n".toList)
                unsetVariable "OPTARG".toList
                return (some '?', ⟨index, offset⟩)
          | [], some value => do
              setQuietly "OPTARG".toList value
              return (some letter, ⟨index + 1, none⟩)
          | value, _ => do
              setQuietly "OPTARG".toList value
              return (some letter, ⟨index, none⟩)

/-- Take the options of a script one by one. -/
def getopts : Builtin := fun arguments => do
  match arguments with
  | letters :: name :: others => do
      let memory ← memory
      let arguments := if others.isEmpty then memory.arguments else others
      let (letter, place) ← nextOption letters arguments memory.place
      setQuietly "OPTIND".toList (Raw.ofNat place.index)
      let (name, _) ← assignmentIn name
      setVariable name [letter.getD '?']
      modifyMemory fun memory => { memory with place }
      return ofBool letter.isSome
  | _ => Shell.fail "Usage: getopts optstring var [arg...]".toList

end EditorBridge.Shell.Builtin
