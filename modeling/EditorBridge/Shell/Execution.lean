import EditorBridge.Shell.Builtin.Limits
import EditorBridge.Shell.Builtin.Processes
import EditorBridge.Shell.Builtin.Programs
import EditorBridge.Shell.Builtin.Reading
import EditorBridge.Shell.Reader
import EditorBridge.Shell.Redirecting

/-!
# Carrying out commands

Every command leaves its exit status in what the shell remembers.  A command that goes deeper than
an allowance kills the shell, as one does that uses up the memory it runs in.

Nothing can come after the last command of a shell, so that a program may take the place of the
shell then.  A command whose status is tested for may fail also in a shell that ends with the first
failure.
-/
namespace EditorBridge.Shell

open Host Act

structure Mode where
  /-- Nothing comes after it. -/
  isLast : Bool
  /-- Its status is tested for. -/
  isTested : Bool
  deriving DecidableEq, Repr

namespace Mode

def plain : Mode := ⟨false, false⟩

def tested : Mode := ⟨false, true⟩

/-- For a command after which something is left to do. -/
def inner (mode : Mode) : Mode := { mode with isLast := false }

end Mode

def Reader.start (text : Raw) : Reader :=
  ⟨text.filter (· ≠ '\x00'), 1, .newline, false, [], .nothing, [], [], 0, [], []⟩

/-- The allowance for reading from a text: no character is looked at by more than a few functions.
-/
def Reader.allowance (reader : Reader) : Nat := 24 * (reader.text.length + 4)

/-- Whether a command that has been read ends where the text does. -/
def Reader.isDone (reader : Reader) : Bool :=
  reader.again && (match reader.last with
    | .endOfFile => true
    | _ => false)

/-- The next command of a text, up to the end of its line; an alias may go on behind it.  Nothing
stands for the end of the text. -/
def readCommandLine (reader : Reader) : Act (Option Command × Reader) := do
  let memory ← memory
  let reader :=
    { reader with again := false, texts := [], nextText := memory.nextText,
                  aliases := memory.aliases }
  match (readMore .line .nothing (reader.allowance + 100 * memory.aliases.length)).run reader with
  | .ok (command?, reader) => do
      modifyMemory fun memory =>
        { memory with texts := reader.texts ++ memory.texts, nextText := reader.nextText }
      return (command?, reader)
  | .error (.wrong line message) => do
      setLine line
      fail message.toList
  | .error .tooDeep => throw (.killed 11)

/-- Carry out the commands of a text one after another, and give the status of the last one. -/
def carryOutText (carryOut : Mode → Command → Act Unit) (mode : Mode) (status : Nat) :
    Nat → Reader → Act Nat
  | 0, _ => throw .overdue
  | rounds + 1, reader => do
      let (command?, reader) ← readCommandLine reader
      match command? with
      | none => return status
      | some .nothing => carryOutText carryOut mode status rounds reader
      | some command => do
          carryOut (if reader.isDone then mode else mode.inner) command
          carryOutText carryOut mode (← memory).status rounds reader

def commandLimit (text : Raw) : Nat := text.length + 2

def tracePreface : Act Raw := do
  let text := ((← memory).valueOf? "PS4").getD []
  let reader := Reader.start text
  let place := Place.text ⟨0, ['\n'], false, false⟩ false
  match (readParts place reader.allowance).run reader with
  | .ok ((parts, _), _) => expandText .bare parts
  | .error _ => return text

/-- How one part of a loop comes out. -/
inductive Passage where
  | done
  /-- The next round is to come. -/
  | again
  /-- The loop is to end. -/
  | over
  deriving DecidableEq, Repr

def leaveLoop : Act Unit :=
  modifyMemory fun memory => { memory with loops := memory.loops - 1 }

/-- Carry out a part of a loop, and heed what it says about this loop. -/
def passage (body : Act Unit) : Act Passage :=
  tryCatch (do body; return .done) fun stop => do
    match stop with
    | .breaking levels =>
        if levels ≤ 1 then return .over
        else
          leaveLoop
          throw (.breaking (levels - 1))
    | .continuing levels =>
        if levels ≤ 1 then return .again
        else
          leaveLoop
          throw (.continuing (levels - 1))
    | .returned status => do
        leaveLoop
        throw (.returned status)
    | stop => throw stop

/-- Repeat while a condition holds or until it does, and give the status of the last round. -/
def repeatWhen (untilHolds : Bool) (condition body : Act Unit) (status : Nat) : Nat → Act Nat
  | 0 => throw .overdue
  | rounds + 1 => do
      labour
      match ← passage condition with
      | .over => return status
      | .again => repeatWhen untilHolds condition body status rounds
      | .done =>
          if ((← memory).status = 0) = untilHolds then return status
          else match ← passage body with
            | .over => return (← memory).status
            | _ => repeatWhen untilHolds condition body (← memory).status rounds

/-- Repeat for each of some values, and give the status of the last round. -/
def repeatFor (name : Raw) (body : Act Unit) (status : Nat) : List Raw → Act Nat
  | [] => return status
  | value :: rest => do
      labour
      setVariable name value
      match ← passage body with
      | .over => return (← memory).status
      | _ => repeatFor name body (← memory).status rest

/-- Go through a loop, which leaves a status. -/
def inLoop (rounds : Act Nat) : Act Unit := do
  modifyMemory fun memory => { memory with loops := memory.loops + 1 }
  let status ← rounds
  leaveLoop
  setStatus status

def matchesOne (text : Raw) : List Word → Act Bool
  | [] => return false
  | word :: rest => do
      if Piece.matchAll (← expandPattern word) text then return true
      else matchesOne text rest

/-- The first case with a pattern that a text matches. -/
def caseFor (text : Raw) : List (List Word × Command) → Act (Option Command)
  | [] => return none
  | (patterns, body) :: rest => do
      if ← matchesOne text patterns then return some body
      else caseFor text rest

/-- Redirections whose targets are known, to be opened by another shell. -/
def Target.settled : Target → Redirection → Redirection
  | .file descriptor access path, _ => .file descriptor access [.quoted path]
  | _, redirection => redirection

/-- Wait for a process, say what has killed it, and leave its status. -/
def awaitProcess (process : Nat) : Act Unit := do
  let ending ← join process
  report ending
  setStatus ending.status

def startJob (processes : List Nat) : Act Unit :=
  modifyMemory fun memory =>
    let left := memory.jobs.filter fun job => !(job.waited && job.isDone)
    let number := ((List.range (left.length + 1)).map (· + 1)).find? fun number =>
      !left.any (·.number = number)
    { memory with
      jobs := ⟨number.getD 1, processes.map fun process => (process, none), false⟩ :: left
      lastJob := processes.getLast?
      status := 0 }

/-- A task that goes on while its shell does something else. -/
def inBackground (task : Task) : Task := { task with ignored := 2 :: 3 :: task.ignored }

/-- Descriptors of which the first leads nowhere. -/
def withoutInput (table : List (Nat × Channel)) : List (Nat × Channel) :=
  (0, .nothing) :: table.filter (·.1 ≠ 0)

/-- Let other shells carry out the stages of a pipeline, each of which reads what the one before
writes. -/
def startStages (background isTested : Bool) (input : Option Nat) :
    List Command → Act (List Nat)
  | [] => return []
  | stage :: rest => do
      let table ← channels
      let table := match input with
        | some pipe => (0, .pipeOutlet pipe) :: table.filter (·.1 ≠ 0)
        | none => if background then withoutInput table else table
      let prepare := if background then inBackground else id
      if rest.isEmpty then return [← forkShell prepare table stage isTested]
      else
        let pipe ← newPipe []
        let table := (1, .pipeInlet pipe) :: table.filter (·.1 ≠ 1)
        let process ← forkShell prepare table stage isTested
        return process :: (← startStages background isTested (some pipe) rest)

def plainName? : Command → Option Raw
  | .simple _ _ (word :: _) _ => (Word.literal? word).bind fun name =>
      if isName name then some name else none
  | _ => none

/-- Look for the programs that stages of a pipeline name, so that their places are remembered. -/
def trackStages : List Command → Act Unit
  | [] => return ()
  | stage :: rest => do
      match plainName? stage with
      | some name =>
          if !isBuiltin name && ((← memory).functions.lookup name).isNone then
            let _ ← track name
      | none => pure ()
      trackStages rest

inductive Carrier where
  /-- Nothing does: there are only assignments and redirections. -/
  | nobody
  | builtin
  | function (body : Command)
  /-- A program, looked for in the standard places or in the search places. -/
  | program (standard : Bool)

/-- What is known about a simple command after its first words have been expanded. -/
structure Resolution where
  /-- The arguments so far. -/
  arguments : List Raw
  rest : List Word
  /-- The number of the argument that names the command. -/
  start : Nat
  carrier : Carrier
  /-- Whether the first command of the shell that has been met is a special one. -/
  special : Option Bool

/-- More arguments than a number, if the words have as many. -/
def extended (count : Nat) (arguments : List Raw) : List Word → Act (List Raw × List Word)
  | [] => return (arguments, [])
  | word :: rest => do
      if count < arguments.length then return (arguments, word :: rest)
      else extended count (arguments ++ (← expandWord word)) rest

/-- The number of the argument that names the command which another command is to carry out, and
whether it is looked for in the standard places.  There is none if the other command has other
options. -/
def wrapped (standard : Bool) :
    Nat → Nat → List Raw → List Word → Act (Option (Nat × Bool) × List Raw × List Word)
  | 0, _, arguments, rest => return (none, arguments, rest)
  | fuel + 1, index, arguments, rest => do
      let (arguments, rest) ← extended index arguments rest
      match arguments[index]? with
      | none => return (none, arguments, rest)
      | some ['-', '-'] => do
          let (arguments, rest) ← extended (index + 1) arguments rest
          let found := if index + 1 < arguments.length then some (index + 1, standard) else none
          return (found, arguments, rest)
      | some ('-' :: letter :: letters) =>
          if (letter :: letters).all (· = 'p') then
            wrapped true fuel (index + 1) arguments rest
          else return (none, arguments, rest)
      | some _ => return (some (index, standard), arguments, rest)

/-- How often a command may be wrapped into another one. -/
def wrappingLimit : Nat := 1000

/-- Find out what carries out a simple command: the command that the argument of some number names,
functions counting or not. -/
def resolve (special : Option Bool) (functions standard : Bool) :
    Nat → Nat → List Raw → List Word → Act Resolution
  | 0, start, arguments, rest => return ⟨arguments, rest, start, .builtin, special⟩
  | fuel + 1, start, arguments, rest => do
      let name := (arguments[start]?).getD []
      let memory ← memory
      let function? := if functions then memory.functions.lookup name else none
      match function? with
      | some body => return ⟨arguments, rest, start, .function body, special⟩
      | none =>
          if name.contains '/' || !isBuiltin name then
            return ⟨arguments, rest, start, .program standard, special⟩
          let special := special.getD (isSpecialBuiltin name)
          let found : Resolution := ⟨arguments, rest, start, .builtin, some special⟩
          if name ≠ "command".toList then return found
          match ← wrapped standard wrappingLimit (start + 1) arguments rest with
          | (some (start, standard), arguments, rest) =>
              resolve (some special) false standard fuel start arguments rest
          | (none, arguments, rest) => return { found with arguments, rest }

/-- What carries out a simple command with some words. -/
def resolveWords (words : List Word) : Act Resolution := do
  match ← extended 0 [] words with
  | ([], _) => return ⟨[], [], 0, .nobody, none⟩
  | (arguments, rest) => resolve none true false wrappingLimit 0 arguments rest

namespace Resolution

def name (resolution : Resolution) : Raw := (resolution.arguments[resolution.start]?).getD []

/-- Whether failures of the command end the shell. -/
def isSpecial (resolution : Resolution) : Bool := resolution.special = some true

def isBuiltin (resolution : Resolution) (name : String) : Bool :=
  (match resolution.carrier with
    | .builtin => true
    | _ => false) && resolution.name = name.toList

/-- Whether arguments that are assignments are expanded as such. -/
def isDeclaring (resolution : Resolution) : Bool :=
  match resolution.carrier with
  | .builtin => Shell.isDeclaring resolution.name
  | _ => false

/-- Whether what is assigned for the command is as before after it. -/
def isSheltered (resolution : Resolution) : Bool :=
  match resolution.carrier with
  | .nobody => false
  | .builtin => !(resolution.special = some true) || 0 < resolution.start
  | _ => true

end Resolution

/-- The arguments that the remaining words of a command stand for. -/
def expandRest (declaring : Bool) : List Word → Act (List Raw)
  | [] => return []
  | word :: rest => do
      let first ← match if declaring then assignment? word else none with
        | some (name, value) => do pure [name ++ '=' :: (← expandValue value)]
        | none => expandWord word
      return first ++ (← expandRest declaring rest)

/-- Carry out assignments in front of a command, and give them as they are traced. -/
def assignAll (sheltered exporting : Bool) : List (Raw × Word) → Act (List Raw)
  | [] => return []
  | (name, word) :: rest => do
      let value ← expandValue word
      if sheltered then save name
      setMarked (sheltered || exporting) name value
      return (name ++ '=' :: value) :: (← assignAll sheltered exporting rest)

def writeLineOn (channel : Option Channel) (line : Raw) : Act Unit := do
  let descriptor := privateDescriptor 0
  setChannel descriptor channel
  write descriptor (line ++ ['\n'])
  setChannel descriptor none

/-- Show a command that is about to be carried out, where complaints have led so far. -/
def trace (complaints : Option Channel) (words : List Raw) : Act Unit := do
  if (← memory).isOn 'x' then
    writeLineOn complaints ((← tracePreface) ++ Raw.join [' '] words)

/-- The commands of the shell that need nothing else to be carried out. -/
def builtin? (name : Raw) : Option Builtin :=
  match String.ofList name with
  | ":" | "true" => some Builtin.succeed
  | "false" => some Builtin.fail
  | "echo" => some Builtin.echo
  | "printf" => some Builtin.printf
  | "test" => some Builtin.test
  | "[" => some Builtin.bracket
  | "times" => some Builtin.times
  | "pwd" => some Builtin.pwd
  | "cd" | "chdir" => some Builtin.cd
  | "umask" => some Builtin.umask
  | "ulimit" => some Builtin.ulimit
  | "exit" => some Builtin.exit
  | "return" => some Builtin.returnFrom
  | "break" => some Builtin.breakOut
  | "continue" => some Builtin.goOn
  | "shift" => some Builtin.shift
  | "export" => some Builtin.export'
  | "readonly" => some Builtin.readonly
  | "local" => some Builtin.declareHere
  | "unset" => some Builtin.unset
  | "alias" => some Builtin.alias'
  | "unalias" => some Builtin.unalias
  | "set" => some Builtin.set
  | "getopts" => some Builtin.getopts
  | "read" => some Builtin.read
  | "wait" => some Builtin.wait
  | "jobs" => some Builtin.jobs
  | "fg" | "bg" => some Builtin.resume
  | "kill" => some Builtin.kill
  | "trap" => some Builtin.trap
  | "exec" => some Builtin.execute
  | "type" => some Builtin.type'
  | "command" => some Builtin.command
  | "hash" => some Builtin.hash
  | _ => none

/-- Carry out a command of the shell, which leaves its status.  What it has written goes out at its
end; who cannot write it complains. -/
def withBuiltin (name : Raw) (body : Act Nat) : Act Unit := do
  let before := (← memory).command
  modifyMemory fun memory => { memory with command := some name }
  let after : Act Unit := do
    forget
    modifyMemory fun memory => { memory with command := before }
  finally' (tryCatch
    (do
      let status ← body
      match ← flush with
      | .ok () => setStatus status
      | .error _ => do
          warn (name ++ ": I/O error".toList)
          setStatus (status ||| 1))
    fun stop => do
      match stop with
      | .breaking _ | .continuing _ => setStatus 0
      | _ => pure ()
      throw stop) after

/-- Let a function have its own arguments, and see to what it returns. -/
def withArguments (arguments : List Raw) (body : Act Unit) : Act Unit := do
  let before ← memory
  modifyMemory fun memory => { memory with arguments, place := ⟨1, none⟩, loops := 0 }
  finally' (tryCatch body fun stop => match stop with
      | .returned status => setStatus status
      | stop => throw stop)
    (modifyMemory fun memory =>
      { memory with arguments := before.arguments, place := before.place, loops := before.loops })

/-- Carry out a program: in place of the shell if nothing comes after it, or else beside it. -/
def carryOutProgram (mode : Mode) (standard : Bool) (name : Raw) (arguments : List Raw) :
    Act Unit := do
  let memory ← memory
  let places := if standard then standardPlaces else memory.searchPlaces
  let found ← if name.contains '/' then pure (.ok (0, name))
    else if standard then look places name
    else track name
  match found with
  | .error error => do
      complain name error
      setStatus 127
  | .ok (index, _) => do
      match ← loadCommand (places.drop index) name arguments with
      | .error error => do
          complain name error
          setStatus (executionStatus error)
      | .ok loaded => do
          let environment := memory.environment
          if mode.isLast && !memory.hasTraps then
            modifyTask fun task => { task with environment }
            throw (.becoming loaded)
          else
            awaitProcess (← fork (fun task => { task with environment }) (← channels)
              (.program loaded))

/-- The path of a script that is read in: a name without a slash is looked for in the search
places. -/
def scriptPath (name : Raw) : Act Raw := do
  if name.contains '/' then return name
  let files := (← machine).files
  let directory := (← task).directory
  let paths := (← memory).searchPlaces.map fun place => Image.pathIn place name
  match paths.find? fun path => files.isFile directory (Raw.toBytes path) with
  | some path => return path
  | none => fail (name ++ ": not found".toList)

def scriptText (path : Raw) : Act Raw := do
  let descriptor := privateDescriptor 1
  setChannel descriptor (some (← openOrFail .read path))
  let text ← readAll descriptor
  setChannel descriptor none
  match text with
  | .ok text => return text
  | .error _ => return []

/-- See to failures that end the shell, and to the end of the shell. -/
def settle (mode : Mode) (counts : Bool) : Act Unit := do
  let memory ← memory
  let fails := memory.isOn 'e' && counts && !mode.isTested && memory.status ≠ 0
  if fails || mode.isLast then throw (.exited memory.status)

mutual

def evaluate (mode : Mode) (command : Command) : Nat → Act Unit
  | 0 => throw (.killed 11)
  | fuel + 1 => do
      let mut counts := false
      if !(← memory).isOn 'n' then
        seeToSignals fuel
        counts ← carryOut mode command fuel
      seeToSignals fuel
      settle mode counts
termination_by structural fuel => fuel

/-- Carry out the actions for signals that have come. -/
def seeToSignals : Nat → Act Unit
  | 0 => return ()
  | fuel + 1 => do
      let signals := (← memory).caught.mergeSort fun a b => a ≤ b
      if signals.isEmpty then return ()
      let before := (← memory).trapStatus
      let status := before.getD (← memory).status
      modifyMemory fun memory => { memory with trapStatus := some status }
      for signal in signals do
        match (← memory).trap? signal with
        | some (c :: action) => do
            modifyMemory fun memory =>
              { memory with caught := memory.caught.filter (· ≠ signal) }
            let text := c :: action
            let _ ← carryOutText (fun mode command => evaluate mode command fuel) .plain 0
              (commandLimit text) (.start text)
            setStatus status
        | _ =>
            modifyMemory fun memory =>
              { memory with caught := memory.caught.filter (· ≠ signal) }
      modifyMemory fun memory => { memory with trapStatus := before }
termination_by structural fuel => fuel

/-- Carry out a command, and tell whether its failure counts as one of the shell's own. -/
def carryOut (mode : Mode) (command : Command) : Nat → Act Bool
  | 0 => throw (.killed 11)
  | fuel + 1 => do
      match command with
      | .nothing => return false
      | .simple line assignments words redirections => do
          setLine line
          labour
          carryOutSimple mode assignments words redirections fuel
          return true
      | .redirected line body redirections => do
          setLine line
          let targets ← expandTargets redirections
          let former ← formerChannels targets
          finally' (do
            if ← tryLead targets then
              evaluate mode.inner body fuel
              return false
            else
              setStatus 2
              return true) (leadBack former)
      | .subshell line body redirections => do
          setLine line
          let targets ← expandTargets redirections
          if mode.isLast && !(← memory).hasTraps then
            leadAll targets
            evaluate mode body fuel
          else
            let redirections := List.zipWith Target.settled targets redirections
            awaitProcess (← forkShell id (← channels) (.subshell line body redirections)
              mode.isTested)
          return true
      | .background line body redirections => do
          setLine line
          let targets ← expandTargets redirections
          let redirections := List.zipWith Target.settled targets redirections
          startJob [← forkShell inBackground (withoutInput (← channels))
            (.subshell line body redirections) false]
          return true
      | .pipeline stages background => do
          trackStages stages
          let processes ← startStages background mode.isTested none stages
          if background then startJob processes
          else
            for process in processes do
              awaitProcess process
          return true
      | .conjunction first second => do
          evaluate .tested first fuel
          if (← memory).status = 0 then evaluate mode second fuel
          return false
      | .disjunction first second => do
          evaluate .tested first fuel
          if (← memory).status ≠ 0 then evaluate mode second fuel
          return false
      | .sequence first second => do
          evaluate mode.inner first fuel
          evaluate mode second fuel
          return false
      | .negation body => do
          evaluate .tested body fuel
          setStatus (if (← memory).status = 0 then 1 else 0)
          return false
      | .conditional test yes no => do
          evaluate .tested test fuel
          if (← memory).status = 0 then evaluate mode yes fuel
          else match no with
            | .nothing => setStatus 0
            | no => evaluate mode no fuel
          return false
      | .loop untilHolds condition body => do
          inLoop (repeatWhen untilHolds (evaluate .tested condition fuel)
            (evaluate mode.inner body fuel) 0 roundLimit)
          return false
      | .each line name words body => do
          setLine line
          let values ← expandWords words
          inLoop (repeatFor name (evaluate mode.inner body fuel) 0 values)
          return false
      | .choice line word cases => do
          setLine line
          let text ← expandText .single word
          match ← caseFor text cases with
          | none | some .nothing => setStatus 0
          | some body => evaluate mode body fuel
          return false
      | .function name _ body => do
          modifyMemory fun memory =>
            { memory with
              functions := (name, body) :: memory.functions.filter (·.1 ≠ name)
              located := memory.located.filter (·.name ≠ name) }
          setStatus 0
          return false
termination_by structural fuel => fuel

/-- Carry out a simple command: expand its words, open its redirections, assign, and then do what
its name says. -/
def carryOutSimple (mode : Mode) (assignments : List (Raw × Word)) (words : List Word)
    (redirections : List Redirection) : Nat → Act Unit
  | 0 => throw (.killed 11)
  | fuel + 1 => do
      modifyMemory fun memory => { memory with substituted := 0 }
      let resolution ← resolveWords words
      let all := resolution.arguments ++ (← expandRest resolution.isDeclaring resolution.rest)
      let arguments := all.drop (resolution.start + 1)
      let isExecution := resolution.isBuiltin "exec"
      let count := (← memory).saved.length
      let wasSheltered := (← memory).inFunction
      if resolution.isSheltered then
        modifyMemory fun memory => { memory with inFunction := true }
      let targets ← expandTargets redirections
      let complaints ← channel? 2
      let former ← formerChannels targets
      let leave : Act Unit := do
        if !isExecution then leadBack former
        if resolution.isSheltered then
          restoreTo count
          modifyMemory fun memory => { memory with inFunction := wasSheltered }
      let body : Act Unit := do
        if !(← tryLead targets) then
          leadBack former
          setStatus 2
          if resolution.isSpecial then throw .failed
        else
          let assigned ← assignAll resolution.isSheltered
            (isExecution && !arguments.isEmpty) assignments
          trace complaints (assigned ++ all)
          perform mode resolution arguments fuel
      tryCatch body fun stop => do
        match stop with
        | .breaking _ | .continuing _ | .returned _ => leave
        | .exited _ | .failed => leadBack former
        | _ => pure ()
        throw stop
      leave
termination_by structural fuel => fuel

/-- Do what the name of a simple command says. -/
def perform (mode : Mode) (resolution : Resolution) (arguments : List Raw) : Nat → Act Unit
  | 0 => throw (.killed 11)
  | fuel + 1 => do
      match resolution.carrier with
      | .nobody => setStatus (← memory).substituted
      | .program standard => carryOutProgram mode standard resolution.name arguments
      | .function body => withArguments arguments (evaluate mode.inner body fuel)
      | .builtin =>
          tryCatch
            (withBuiltin resolution.name (carryOutBuiltin mode resolution.name arguments fuel))
            fun stop => do
              if stop = .failed && !resolution.isSpecial then return ()
              else throw stop
termination_by structural fuel => fuel

def carryOutBuiltin (mode : Mode) (name : Raw) (arguments : List Raw) : Nat → Act Nat
  | 0 => throw (.killed 11)
  | fuel + 1 => do
      let carryOutOne (mode : Mode) (command : Command) : Act Unit := evaluate mode command fuel
      match builtin? name with
      | some builtin => builtin arguments
      | none =>
          if name = "eval".toList then
            let text := Raw.join [' '] arguments
            carryOutText carryOutOne mode.inner 0 (commandLimit text) (.start text)
          else
            match (← takeOptions [] arguments).2 with
            | [] => return 0
            | script :: _ => do
                let path ← scriptPath script
                let text ← scriptText path
                modifyMemory fun memory => { memory with command := some path }
                tryCatch (carryOutText carryOutOne .plain 0 (commandLimit text) (.start text))
                  fun stop => match stop with
                    | .returned status => return status
                    | stop => throw stop
termination_by structural fuel => fuel

end

end EditorBridge.Shell
