import EditorBridge.Host.Machine
import EditorBridge.Shell.Arithmetic
import EditorBridge.Shell.Signal

/-!
# What a shell says

A complaint starts with the name of the shell and the line of its script, and with the command that
it is about if there is one.  What commands of the shell write is kept until they are done, so that
complaints come first.
-/
namespace EditorBridge.Shell

open Host Act

def memory : Act Memory := return (← task).memory

def modifyMemory (change : Memory → Memory) : Act Unit :=
  modifyTask fun task => { task with memory := change task.memory }

/-- Remember the exit status of a command. -/
def setStatus (status : Nat) : Act Unit := modifyMemory fun memory => { memory with status }

def setLine (line : Nat) : Act Unit := modifyMemory fun memory => { memory with line }

def Memory.preface (memory : Memory) : Raw :=
  memory.name ++ ": ".toList ++ Raw.ofNat memory.line ++ ": ".toList ++
    (match memory.command with
      | some command => command ++ ": ".toList
      | none => [])

def warn (text : Raw) : Act Unit := do
  write 2 ((← memory).preface ++ text ++ ['\n'])

def failWith {α : Type} (status : Nat) (text : Raw) : Act α := do
  warn text
  let _ ← flush
  setStatus status
  throw .failed

def fail {α : Type} (text : Raw) : Act α := failWith 2 text

/-- Complain about a text that ought to be a number, and give up. -/
def illegalNumber {α : Type} (text : Raw) : Act α := fail ("Illegal number: ".toList ++ text)

/-- The number that a text is, where something is counted. -/
def countOf (text : Raw) : Act Nat := do
  match Arithmetic.count? text with
  | some n => return n
  | none => illegalNumber text

inductive OptionFault where
  | unknown (letter : Char)
  | noValue (letter : Char)
  deriving DecidableEq, Repr

def OptionFault.message : OptionFault → Raw
  | unknown letter => "Illegal option -".toList ++ [letter]
  | noValue letter => "No arg for -".toList ++ letter :: " option".toList

/-- The letters of one argument: those with a colon behind them have a value, which is the rest of
the argument or the next one. -/
def optionLetters (known : List (Char × Bool)) (rest : List Raw) :
    Raw → Except OptionFault (List (Char × Raw) × List Raw)
  | [] => .ok ([], rest)
  | letter :: letters =>
      match known.lookup letter with
      | none => .error (.unknown letter)
      | some false => do
          let (found, rest) ← optionLetters known rest letters
          return ((letter, []) :: found, rest)
      | some true =>
          match letters, rest with
          | [], [] => .error (.noValue letter)
          | [], value :: rest => .ok ([(letter, value)], rest)
          | value, rest => .ok ([(letter, value)], rest)

/-- The options in front of arguments, and the other arguments. -/
def optionsIn (known : List (Char × Bool)) :
    Nat → List Raw → Except OptionFault (List (Char × Raw) × List Raw)
  | 0, arguments => .ok ([], arguments)
  | _, [] => .ok ([], [])
  | fuel + 1, argument :: rest =>
      match argument with
      | ['-', '-'] => .ok ([], rest)
      | '-' :: letter :: letters => do
          let (found, rest) ← optionLetters known rest (letter :: letters)
          let (more, rest) ← optionsIn known fuel rest
          return (found ++ more, rest)
      | argument => .ok ([], argument :: rest)

def takeOptions (known : List (Char × Bool)) (arguments : List Raw) :
    Act (List (Char × Raw) × List Raw) := do
  match optionsIn known (arguments.length + 1) arguments with
  | .ok found => return found
  | .error fault => fail fault.message

end EditorBridge.Shell
