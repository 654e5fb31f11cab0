import EditorBridge.Shell.Syntax

/-!
# What a shell remembers

Variables with their marks, parameters, functions, aliases, traps, options and jobs, and where it is
in its script.  All of it is plain data, so that a subshell starts with a copy.
-/
namespace EditorBridge.Shell

/-- A variable: it may be marked without having a value. -/
structure Variable where
  value : Option Raw
  isExported : Bool
  isReadOnly : Bool
  deriving DecidableEq, Repr

/-- What was there before something got a value for a while. -/
inductive Saved where
  | variable (name : Raw) (before : Option Variable)
  | options (before : List Char)
  deriving DecidableEq, Repr

inductive Ending where
  | exited (status : Nat)
  | killed (signal : Nat)
  deriving DecidableEq, Repr

def Ending.status : Ending → Nat
  | exited status => status
  | killed signal => 128 + signal

/-- Processes in the background that belong together, with how those have ended that are known to
have. -/
structure Job where
  number : Nat
  processes : List (Nat × Option Ending)
  /-- Whether somebody has waited for it. -/
  waited : Bool
  deriving DecidableEq, Repr

/-- Where a shell is among its options, when it goes through them one by one. -/
structure OptionPlace where
  /-- The number of the argument that comes next. -/
  index : Nat
  /-- How far the argument before has been looked at, if letters may be left of it. -/
  offset : Option Nat
  deriving DecidableEq, Repr

structure Located where
  name : Raw
  /-- The number of the place where it was found. -/
  index : Nat
  path : Raw
  /-- Whether the working directory has changed since. -/
  isStale : Bool
  deriving DecidableEq, Repr

namespace Job

def isDone (job : Job) : Bool := job.processes.all (·.2.isSome)

/-- The exit status of a job: that of its last process. -/
def status (job : Job) : Nat :=
  ((job.processes.getLast?.bind (·.2)).map (·.status)).getD 0

def learn (process : Nat) (ending : Ending) (job : Job) : Job :=
  { job with
    processes := job.processes.map fun entry =>
      if entry.1 = process then (process, some ending) else entry }

end Job

structure Memory where
  /-- The name by which the shell was called. -/
  name : Raw
  /-- The number of the process, which subshells do not change. -/
  process : Nat
  arguments : List Raw
  place : OptionPlace
  /-- The exit status of the last command. -/
  status : Nat
  /-- The exit status of the last command whose output was substituted. -/
  substituted : Nat
  bindings : List (Raw × Variable)
  functions : List (Raw × Command)
  aliases : List (Raw × Raw)
  located : List Located
  /-- What to do on signals, zero standing for the end of the shell; to do nothing is empty. -/
  traps : List (Nat × Raw)
  /-- Signals that have come and are still to be seen to. -/
  caught : List Nat
  /-- The exit status before the action of a trap that is being carried out. -/
  trapStatus : Option Nat
  /-- The letters of the options that are on. -/
  options : List Char
  /-- The line of the last command. -/
  line : Nat
  /-- The command that complaints are about. -/
  command : Option Raw
  /-- The jobs, the latest one first. -/
  jobs : List Job
  /-- The last process sent to the background. -/
  lastJob : Option Nat
  /-- How many loops are being gone through. -/
  loops : Nat
  /-- What will be as it was before at the end of the commands that are being carried out, the last
  change first. -/
  saved : List Saved
  /-- Whether the shell is in a function. -/
  inFunction : Bool
  texts : Texts
  nextText : Nat
  /-- Whether the shell was forked off another one. -/
  isSubshell : Bool

namespace Memory

def optionNames : List (Char × String) :=
  [('e', "errexit"), ('f', "noglob"), ('I', "ignoreeof"), ('i', "interactive"), ('m', "monitor"),
    ('n', "noexec"), ('s', "stdin"), ('x', "xtrace"), ('v', "verbose"), ('V', "vi"), ('E', "emacs"),
    ('C', "noclobber"), ('a', "allexport"), ('b', "notify"), ('u', "nounset"), ('p', "privileged")]

/-- Options that have a name only. -/
def unlettered : List (Char × String) := [('\x00', "nolog"), ('\x01', "debug")]

def allOptions : List (Char × String) := optionNames ++ unlettered

def isOn (memory : Memory) (option : Char) : Bool := memory.options.contains option

def setOption (memory : Memory) (option : Char) (on : Bool) : Memory :=
  let others := memory.options.filter (· ≠ option)
  { memory with options := if on then option :: others else others }

/-- The letters of the options that are on, the last one first. -/
def flags (memory : Memory) : Raw :=
  ((optionNames.map (·.1)).filter memory.isOn).reverse

def binding? (memory : Memory) (name : Raw) : Option Variable := memory.bindings.lookup name

def value? (memory : Memory) (name : Raw) : Option Raw :=
  (memory.binding? name).bind (·.value)

/-- The value of a variable that a text names. -/
def valueOf? (memory : Memory) (name : String) : Option Raw := memory.value? name.toList

/-- Bindings with a variable as given, at the place where it was before. -/
def put (name : Raw) (entry : Variable) : List (Raw × Variable) → List (Raw × Variable)
  | [] => [(name, entry)]
  | (other, old) :: rest =>
      if other = name then (name, entry) :: rest else (other, old) :: put name entry rest

def putVariable (memory : Memory) (name : Raw) (entry : Variable) : Memory :=
  { memory with bindings := put name entry memory.bindings }

def dropVariable (memory : Memory) (name : Raw) : Memory :=
  { memory with bindings := memory.bindings.filter (·.1 ≠ name) }

/-- What a variable is marked as, whether or not it has a value. -/
def entry (memory : Memory) (name : Raw) : Variable :=
  (memory.binding? name).getD ⟨none, false, false⟩

/-- Names are kept in so many rows. -/
def rowCount : Nat := 39

def rowNumber (name : Raw) : Nat :=
  (name.head?.map fun c => c.toNat * 16).getD 0 + name.foldl (fun n c => n + c.toNat) 0

def row (name : Raw) : Nat := rowNumber name % rowCount

/-- The variables that other programs are told, with their values, row by row. -/
def environment (memory : Memory) : List (Raw × Raw) :=
  (List.range rowCount).flatMap fun index =>
    memory.bindings.filterMap fun (name, entry) =>
      if row name = index && entry.isExported then entry.value.map fun value => (name, value)
      else none

/-- The directories in which programs are looked up. -/
def searchPlaces (memory : Memory) : List Raw :=
  Raw.splitOn ':' ((memory.valueOf? "PATH").getD [])

/-- The characters that separate fields: blanks unless somebody said otherwise. -/
def separators (memory : Memory) : Raw := (memory.valueOf? "IFS").getD " \t\n".toList

/-- What is put between arguments that become one text. -/
def joint (memory : Memory) : Raw :=
  match memory.valueOf? "IFS" with
  | none => [' ']
  | some separators => separators.take 1

def trap? (memory : Memory) (signal : Nat) : Option Raw := memory.traps.lookup signal

/-- Whether something is to be done on some signal. -/
def hasTraps (memory : Memory) : Bool := memory.traps.any fun trap => trap.2 ≠ []

/-- A subshell starts with a copy, but its traps do nothing unless they ignore a signal. -/
def forSubshell (memory : Memory) : Memory :=
  { memory with
    traps := memory.traps.filter fun trap => trap.1 ≠ 0 && trap.2 = []
    caught := []
    trapStatus := none
    jobs := []
    isSubshell := true }

/-- A memory in which what was changed for a while is as before, except for so many changes. -/
def restoreTo (memory : Memory) (count : Nat) : Memory :=
  (memory.saved.take (memory.saved.length - count)).foldl
    (fun memory saved => match saved with
      | .variable name (some entry) => memory.putVariable name entry
      | .variable name none => memory.dropVariable name
      | .options before => { memory with options := before })
    { memory with saved := memory.saved.drop (memory.saved.length - count) }

end Memory

end EditorBridge.Shell
