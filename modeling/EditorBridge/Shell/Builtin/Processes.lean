import EditorBridge.Shell.Builtin.Naming
import EditorBridge.Shell.Expansion

/-!
# Commands of the shell about processes

Waiting for jobs, showing them, sending signals, and saying what is to be done on signals.
-/
namespace EditorBridge.Shell.Builtin

open Host Act

def learn (process : Nat) (ending : Ending) : Act Unit :=
  modifyMemory fun memory => { memory with jobs := memory.jobs.map (·.learn process ending) }

/-- Find out which processes of jobs have ended. -/
def learnAll : List Nat → Act Unit
  | [] => return ()
  | process :: rest => do
      match ← ending? process with
      | some ending => learn process ending
      | none => pure ()
      learnAll rest

/-- The processes of jobs that are not known to have ended. -/
def running (jobs : List Job) : List Nat :=
  jobs.flatMap fun job => job.processes.filterMap fun entry =>
    if entry.2.isSome then none else some entry.1

def job? (number : Nat) : Act (Option Job) := do
  return (← memory).jobs.find? (·.number = number)

def namedJob (text : Raw) : Act Job := do
  let jobs := (← memory).jobs
  let missing {α : Type} : Act α := Shell.fail ("No such job: ".toList ++ text)
  match text.drop 1 with
  | [] | ['%'] | ['+'] =>
      match jobs with
      | job :: _ => return job
      | [] => Shell.fail "No current job".toList
  | ['-'] =>
      match jobs with
      | _ :: job :: _ => return job
      | _ => Shell.fail "No previous job".toList
  | digits =>
      match (Raw.nat? digits).bind fun n => jobs.find? (·.number = n) with
      | some job => return job
      | none => missing

/-- Wait until some processes have ended, or a signal has come; say what has killed them if they are
waited for by name. -/
def awaitAll (reporting : Bool) : Nat → List Nat → Act Bool
  | 0, _ => throw .overdue
  | _, [] => return true
  | rounds + 1, processes => do
      if (← memory).caught ≠ [] then return false
      await (.change processes)
      let mut left := []
      for process in processes do
        match ← ending? process with
        | some ending => do
            learn process ending
            if reporting then report ending
        | none => left := process :: left
      awaitAll reporting rounds left.reverse

/-- The status when a signal has come in between. -/
def interrupted : Act Nat := return 128 + (← memory).caught.headD 0

/-- Wait for one job, and give its status. -/
def awaitJob (job : Job) : Act Nat := do
  if ← awaitAll true roundLimit (running [job]) then
    modifyMemory fun memory =>
      { memory with
        jobs := memory.jobs.map fun other =>
          if other.number = job.number then { other with waited := true } else other }
    return ((← job? job.number).map (·.status)).getD 127
  else interrupted

def awaitJobs : Act Nat := do
  if ← awaitAll false roundLimit (running (← memory).jobs) then
    modifyMemory fun memory =>
      { memory with jobs := memory.jobs.map fun job => { job with waited := true } }
    return 0
  else interrupted

/-- Wait for jobs that are named one after another; the status is that of the last one. -/
def awaitNamed (status : Nat) : List Raw → Act Nat
  | [] => return status
  | argument :: rest => do
      let job? ← if argument.head? = some '%' then pure (some (← namedJob argument))
        else
          let process ← countOf argument
          pure ((← memory).jobs.find? fun job => job.processes.getLast?.any (·.1 = process))
      match job? with
      | some job => awaitNamed (← awaitJob job) rest
      | none => awaitNamed status rest

def wait : Builtin := fun arguments => do
  match (← takeOptions [] arguments).2 with
  | [] => awaitJobs
  | arguments => awaitNamed 127 arguments

def jobState (job : Job) : Raw :=
  if !job.isDone then "Running".toList
  else match job.processes.getLast?.bind (·.2) with
    | some (.killed signal) => Signal.text signal
    | some (.exited status) =>
        if status = 0 then "Done".toList else "Done(".toList ++ Raw.ofNat status ++ [')']
    | none => "Done".toList

def jobs : Builtin := fun arguments => do
  let (found, names) ← takeOptions [('l', false), ('p', false)] arguments
  learnAll (running (← memory).jobs)
  let chosen ← if names.isEmpty then pure (← memory).jobs else names.mapM namedJob
  let ofProcesses := found.any (·.1 = 'p')
  let withProcesses := found.any (·.1 = 'l')
  for job in chosen do
    let process := Raw.ofNat ((job.processes.head?.map (·.1)).getD 0)
    if ofProcesses then sayLine process
    else
      let order := (← memory).jobs.findIdx (·.number = job.number)
      let sign := if order = 0 then '+' else if order = 1 then '-' else ' '
      let text := '[' :: Raw.ofNat job.number ++ "] ".toList ++ sign :: [' '] ++
        (if withProcesses then process ++ [' '] else []) ++ jobState job
      sayLine (text ++ List.replicate (max 1 (33 - text.length)) ' ')
  modifyMemory fun memory =>
    { memory with
      jobs := memory.jobs.filter fun job =>
        !(job.isDone && chosen.any (·.number = job.number)) }
  return 0

/-- Let a job go on in front of the others or behind them, which only a shell with a terminal does.
-/
def resume : Builtin := fun arguments => do
  let (_, names) ← takeOptions [] arguments
  let _ ← namedJob (names.headD ['%'])
  Shell.fail ("job ".toList ++ (names.head?).getD "(null)".toList ++
    " not created under job control".toList)

def killUsage : Raw :=
  "Usage: kill [-s sigspec | -signum | -sigspec] [pid | job]... or\nkill -l [exitstatus]".toList

/-- The process that an argument names; nothing stands for all of them. -/
def processNamed (argument : Raw) : Act (Option Nat) := do
  match argument with
  | '%' :: _ => return ((← namedJob argument).processes.head?.map (·.1 + 1000000))
  | '-' :: digits => do
      let n ← countOf digits
      return if n ≤ 1 || n = (← memory).process then none else some (n + 1000000)
  | argument => do
      let n ← countOf argument
      return if n = 0 then none else some n

def sendTo (signal : Nat) (arguments : List Raw) : Act Nat := do
  let mut status := 0
  for argument in arguments do
    match ← send signal (← processNamed argument) with
    | .ok () => pure ()
    | .error error => do
        let text := match error with
          | .number n => SystemError.text n
          | error => error.message
        warn (text.toList ++ ['\n'])
        status := 1
  return status

def listSignals (arguments : List Raw) : Act Nat := do
  match arguments with
  | [] => do
      sayLine ['0']
      for signal in (List.range Signal.count).drop 1 do
        sayLine (Signal.name signal)
      return 0
  | argument :: _ => do
      let n ← countOf argument
      let signal := if 128 < n then n - 128 else n
      if 0 < signal && signal < Signal.count then
        sayLine (Signal.name signal)
        return 0
      else Shell.fail ("invalid signal number or exit status: ".toList ++ argument)

/-- Send a signal, or show the names of signals. -/
def kill : Builtin := fun arguments => do
  let usage : Act Nat := Shell.fail killUsage
  match arguments with
  | ('-' :: text) :: rest =>
      match Signal.ofText? 1 text with
      | some signal => if rest.isEmpty then usage else sendTo signal rest
      | none => do
          let (found, rest) ← takeOptions [('l', false), ('s', true)] arguments
          match found.reverse.find? (·.1 = 's') with
          | some (_, name) =>
              match Signal.ofText? 1 name with
              | none => Shell.fail ("invalid signal number or name: ".toList ++ name)
              | some signal =>
                  if found.any (·.1 = 'l') || rest.isEmpty then usage else sendTo signal rest
          | none =>
              if found.any (·.1 = 'l') then listSignals rest
              else if rest.isEmpty then usage else sendTo 15 rest
  | [] => usage
  | arguments => sendTo 15 arguments

/-- Let an action be carried out when a signal comes; nothing stands for what it does by itself. -/
def setTrap (signal : Nat) (action : Option Raw) : Act Unit := do
  modifyMemory fun memory =>
    let others := memory.traps.filter (·.1 ≠ signal)
    { memory with
      traps := match action with
        | some action => (signal, action) :: others
        | none => others }
  modifyTask fun task =>
    let others := task.ignored.filter (· ≠ signal)
    { task with ignored := if action = some [] && signal ≠ 0 then signal :: others else others }

/-- Set traps for signals until one is unknown. -/
def setTraps (action : Option Raw) : List Raw → Act Nat
  | [] => return 0
  | name :: rest =>
      match Signal.ofText? 0 name with
      | some signal => do
          setTrap signal action
          setTraps action rest
      | none => do
          write 2 ("trap: ".toList ++ name ++ ": bad trap\n".toList)
          return 1

/-- Say what to do on signals, or show what is to be done. -/
def trap : Builtin := fun arguments => do
  let (_, arguments) ← takeOptions [] arguments
  match arguments with
  | [] => do
      for signal in List.range Signal.count do
        match (← memory).trap? signal with
        | some action =>
            sayLine ("trap -- ".toList ++ quotedText action ++ ' ' :: Signal.name signal)
        | none => pure ()
      return 0
  | action :: names =>
      if names.isEmpty || (action ≠ [] && action.all Char.isDigit &&
          (Signal.ofNumber? action).isSome) then setTraps none (action :: names)
      else setTraps (if action = ['-'] then none else some action) names

end EditorBridge.Shell.Builtin
