import EditorBridge.Shell.Execution

/-!
# The shell as a program

A shell is called with a command, with the path of a script, or with nothing but a script to read.
It ends with the status of its last command, after the action for its end.
-/
namespace EditorBridge.Shell

open Host Act

/-- How deep commands may be nested while they are carried out. -/
def depthAllowance : Nat := 20000

def carryOutOne (mode : Mode) (command : Command) : Act Unit :=
  evaluate mode command depthAllowance

def ownVariables : List (String × String) :=
  [("IFS", " \t\n"),
    ("PATH", "/usr/local/sbin:/usr/local/bin:/usr/sbin:/usr/bin:/sbin:/bin"),
    ("PS1", "# "), ("PS2", "> "), ("PS4", "+ "), ("OPTIND", "1")]

def initialBindings (task : Task) : List (Raw × Variable) :=
  let own := ownVariables.map fun (name, value) =>
    (name.toList, (⟨some value.toList, false, false⟩ : Variable))
  let told := (task.environment.filter fun entry => isName entry.1).foldl
    (fun bindings entry => Memory.put entry.1 ⟨some entry.2, true, false⟩ bindings) own
  let keep (bindings : List (Raw × Variable)) (name : String) (value : Raw) :=
    let exported := (bindings.lookup name.toList).any (·.isExported)
    Memory.put name.toList ⟨some value, exported, false⟩ bindings
  let bindings := keep told "IFS" " \t\n".toList
  let bindings := keep bindings "OPTIND" ['1']
  let bindings := keep bindings "PPID" (Raw.ofNat task.parent)
  let directory := '/' :: Raw.ofBytes (Path.concat task.directory)
  Memory.put "PWD".toList ⟨some directory, true, false⟩ bindings

/-- What a program remembers that has not begun. -/
def Memory.blank (name : Raw) (process : Nat) : Memory where
  name := name
  process := process
  arguments := []
  place := ⟨1, none⟩
  status := 0
  substituted := 0
  bindings := []
  functions := []
  aliases := []
  located := []
  traps := []
  caught := []
  trapStatus := none
  options := []
  line := 0
  command := none
  jobs := []
  lastJob := none
  loops := 0
  saved := []
  inFunction := false
  texts := []
  nextText := 0
  isSubshell := false

/-- The end of a shell: what it has been told to do then is done. -/
def finish (status : Nat) : Act Nat := do
  setStatus status
  match (← memory).trap? 0 with
  | none | some [] => return status
  | some action => do
      modifyMemory fun memory =>
        { memory with traps := memory.traps.filter (·.1 ≠ 0), trapStatus := some status }
      tryCatch
        (do
          let _ ← carryOutText carryOutOne .plain 0 (commandLimit action) (.start action)
          return status)
        fun stop => do
          match stop with
          | .exited status => return status
          | .failed => return (← memory).status
          | .breaking _ | .continuing _ | .returned _ => return status
          | stop => throw stop

def toTheEnd (body : Act Unit) : Act Nat := do
  let status ← tryCatch (do body; return (← memory).status) fun stop => do
    match stop with
    | .exited status | .returned status => return status
    | .failed | .breaking _ | .continuing _ => return (← memory).status
    | stop => throw stop
  finish status

def runForked (body : Command) (isTested : Bool) : Act Nat :=
  toTheEnd (carryOutOne ⟨true, isTested⟩ body)

def readSoFar (reader : Reader) : Raw :=
  let start := { reader with again := false, texts := [] }
  match (readMore .line .nothing reader.allowance).run start with
  | .ok (_, after) => reader.text.take (reader.text.length - after.text.length)
  | .error (.wrong line _) =>
      let lines := Raw.splitOn '\n' reader.text
      let count := line + 1 - reader.line
      Raw.join ['\n'] (lines.take count) ++ (if count < lines.length then ['\n'] else [])
  | .error .tooDeep => []

/-- Carry out a script, showing what is read of it if that is asked for. -/
def carryOutScript : Nat → Reader → Act Unit
  | 0, _ => throw .overdue
  | rounds + 1, reader => do
      if (← memory).isOn 'v' then write 2 (readSoFar reader)
      let (command?, reader) ← readCommandLine reader
      match command? with
      | none => return ()
      | some command => do
          carryOutOne .plain command
          carryOutScript rounds reader

def carryOutInput : Act Unit := do
  let text ← match ← readAll 0 with
    | .ok text => pure text
    | .error _ => pure []
  carryOutScript (commandLimit text) (.start text)

/-- The options in the arguments of a shell, set; and whether a command comes with it. -/
def takeCallOptions (withCommand : Bool) : Nat → List Raw → Act (Bool × List Raw)
  | 0, arguments => return (withCommand, arguments)
  | _, [] => return (withCommand, [])
  | fuel + 1, argument :: rest => do
      let continueWith (on : Bool) (letters : Raw) : Act (Bool × List Raw) := do
        let others := letters.filter fun letter => letter ≠ 'c' && letter ≠ 'l'
        if rest.isEmpty && others.contains 'o' then
          let before := (← memory).options
          modifyMemory fun memory => { memory with options := Memory.allOptions.map (·.1) }
          Builtin.listOptions (!on)
          modifyMemory fun memory => { memory with options := before }
        let rest ← Builtin.setLetters on
          (if rest.isEmpty then others.filter (· ≠ 'o') else others) rest
        takeCallOptions (withCommand || letters.contains 'c') fuel rest
      match argument with
      | ['-'] | ['-', '-'] => return (withCommand, rest)
      | '-' :: letters => continueWith true letters
      | '+' :: letters => continueWith false letters
      | _ => return (withCommand, argument :: rest)

def setNameAndArguments : List Raw → Act Unit
  | [] => return ()
  | name :: arguments => modifyMemory fun memory => { memory with name, arguments }

def carryOutCall (arguments : List Raw) : Act Unit := do
  let (withCommand, arguments) ← takeCallOptions false (arguments.length + 1) arguments
  let _ ← flush
  if arguments.isEmpty then
    if withCommand then fail "-c requires an argument".toList
    modifyMemory (·.setOption 's' true)
  let readsInput := (← memory).isOn 's'
  match arguments with
  | [] => carryOutInput
  | first :: rest =>
      if withCommand then
        setNameAndArguments rest
        let mode := if readsInput then Mode.plain else ⟨true, false⟩
        let _ ← carryOutText carryOutOne mode 0 (commandLimit first) (.start first)
        if readsInput then carryOutInput
      else if readsInput then
        modifyMemory fun memory => { memory with arguments }
        carryOutInput
      else
        let text ← scriptText first
        setNameAndArguments arguments
        carryOutScript (commandLimit text) (.start text)

def start (arguments : List Raw) : Act Nat := do
  let task ← task
  modifyMemory fun _ =>
    { Memory.blank task.name task.id with bindings := initialBindings task }
  toTheEnd (carryOutCall arguments)

end EditorBridge.Shell
