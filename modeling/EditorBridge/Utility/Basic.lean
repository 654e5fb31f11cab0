import EditorBridge.Format.Quoting
import EditorBridge.Host.Machine
import EditorBridge.Utility.Options

/-!
# Small programs

A small program does something with its arguments and has an exit status.  Its complaints start with
the name by which it was called.  What it writes is kept for a while, and goes out at its end at the
latest; that it cannot be written is a failure of the program.
-/
namespace EditorBridge

open Host Act

/-- A small program: what it does with its arguments until it has a status. -/
abbrev Utility := List Raw → Act Nat

namespace Utility

def reason : SystemError → Raw
  | .number n => (SystemError.text n).toList
  | error => error.message.toList

def complain (text : Raw) : Act Unit := do
  write 2 ((← task).name ++ ": ".toList ++ text ++ ['\n'])

/-- Complain about what a system error has made impossible. -/
def complainOf (what : Raw) (error : SystemError) : Act Unit :=
  complain (what ++ ": ".toList ++ reason error)

def complainOfFile (path : Raw) (error : SystemError) : Act Unit :=
  complainOf (Quoting.name path) error

def giveUp {α : Type} (text : Raw) : Act α := do
  complain text
  throw .failed

def giveUpHelpfully {α : Type} : Act α := do
  write 2 ("Try '".toList ++ (← task).name ++ " --help' for more information.\n".toList)
  throw .failed

/-- Complain about the way the program is called, and give up. -/
def misuse {α : Type} (text : Raw) : Act α := do
  complain text
  giveUpHelpfully

/-- How much is kept before it is written. -/
def keptSize : Nat := 4096

/-- Write what has been kept; give up if that is not possible. -/
def pass : Act Unit := do
  match ← flush with
  | .ok () => return ()
  | .error error => do
      complainOf "write error".toList error
      throw .failed

/-- Write something, now or later. -/
def put (raw : Raw) : Act Unit := do
  say raw
  if keptSize ≤ (← task).pendingSize then pass

/-- Write a line, now or later. -/
def putLine (raw : Raw) : Act Unit := put (raw ++ ['\n'])

/-- A program with the status that it has when it fails, which writes all it has to write. -/
def closing (failure : Nat) (program : Utility) : Utility := fun arguments => do
  let status ← tryCatch (program arguments) fun stop => match stop with
    | .exited status => return status
    | .failed => return failure
    | stop => throw stop
  tryCatch (do pass; return status) fun stop => match stop with
    | .failed => return failure
    | stop => throw stop

def commonNames : List LongOption :=
  [⟨"help", .none, '\u0100'⟩, ⟨"version", .none, '\u0101'⟩]

def table (letters : String) (names : List (String × Arity × Char)) : OptionTable :=
  ⟨letters, names.map (fun (name, arity, letter) => ⟨name, arity, letter⟩) ++ commonNames, true,
    fun _ => false⟩

/-- A table of options that do not stand behind other arguments. -/
def leadingTable (letters : String) (names : List (String × Arity × Char)) : OptionTable :=
  { table letters names with isMixed := false }

/-- The options among arguments; give up if something is wrong with them, which may be seen to in
another way. -/
def optionsOr (refuse : OptionProblem → Act Unit) (table : OptionTable) (arguments : List Raw) :
    Act Options := do
  match table.take arguments with
  | .ok options =>
      if options.has '\u0100' || options.has '\u0101' then throw (.exited 0)
      else return options
  | .error problem => do
      refuse problem
      misuse problem.message

/-- The options among arguments; give up if something is wrong with them. -/
def optionsOf (table : OptionTable) (arguments : List Raw) : Act Options :=
  optionsOr (fun _ => return ()) table arguments

/-- Give up because of a letter that is a digit. -/
def refuseDigit (refuse : Char → Act Unit) : OptionProblem → Act Unit
  | .invalidLetter letter => if letter.isDigit then refuse letter else return ()
  | _ => return ()

/-- Give up because there is an operand too many. -/
def extraOperand {α : Type} (operand : Raw) : Act α :=
  misuse ("extra operand ".toList ++ Quoting.shown operand)

/-- Give up because there is no operand, or none after another one. -/
def missingOperand {α : Type} (operands : List Raw) : Act α :=
  match operands.getLast? with
  | none => misuse "missing operand".toList
  | some last => misuse ("missing operand after ".toList ++ Quoting.shown last)

/-- The descriptor that a program uses for the file it reads. -/
def inputDescriptor : Nat := 3

/-- Do something with a descriptor from which a file can be read, a hyphen standing for the first
input. -/
def withInput {α : Type} (path : Raw) (use : Nat → Act α) : Act (Except SystemError α) := do
  if path = ['-'] then return .ok (← use 0)
  match ← openPath path .read with
  | .error error => return .error error
  | .ok channel => do
      let before ← channel? inputDescriptor
      setChannel inputDescriptor (some channel)
      let result ← use inputDescriptor
      setChannel inputDescriptor before
      return .ok result

/-- Put back what has been read of a file but is not needed. -/
def putBack (descriptor count : Nat) : Act Unit := do
  match ← channel? descriptor with
  | some (.file index) =>
      modifyMachine fun machine =>
        { machine with
          opened := machine.opened.modify index fun opened =>
            { opened with offset := opened.offset - count } }
  | _ => return ()

/-- Go through what can be read piece by piece, as long as the action says so. -/
def foldInput {σ : Type} (descriptor : Nat) (action : σ → Raw → Act (σ × Bool)) :
    Nat → σ → Act (σ × Except SystemError Unit)
  | 0, _ => throw .overdue
  | rounds + 1, state => do
      match ← readFrom descriptor blockSize with
      | .error error => return (state, .error error)
      | .ok [] => return (state, .ok ())
      | .ok piece => do
          labourFor piece
          let (state, goesOn) ← action state piece
          if goesOn then foldInput descriptor action rounds state
          else return (state, .ok ())

/-- A path, or the first input if there is none. -/
def orInput (paths : List Raw) : List Raw := if paths.isEmpty then [['-']] else paths

/-- How the first input is called in complaints and headings. -/
def inputName (path : Raw) : Raw := if path = ['-'] then "standard input".toList else path

/-- A piece cut into the lines that end in it, without their ends, and what is left of it. -/
def cutLines (terminator : Char) (before : List Raw) (piece : Raw) : List Raw × List Raw :=
  match Raw.splitOn terminator piece with
  | [] => ([], before)
  | [rest] => ([], rest :: before)
  | first :: others =>
      let line := (first :: before).reverse.flatten
      (line :: others.dropLast, [others.getLastD []])

/-- Go through lines. -/
def foldSome {σ : Type} (action : σ → Raw → Act (σ × Bool)) (state : σ) :
    List Raw → Act (σ × Bool)
  | [] => return (state, true)
  | line :: rest => do
      let (state, goesOn) ← action state line
      if goesOn then foldSome action state rest else return (state, false)

/-- Go through what can be read line by line, as long as the action says so; it gets lines without
their ends, and whether they have one. -/
def foldLines {σ : Type} (terminator : Char) (descriptor : Nat)
    (action : Bool → σ → Raw → Act (σ × Bool)) (state : σ) :
    Act (σ × Except SystemError Unit) := do
  let step (state : σ × List Raw × Bool) (piece : Raw) : Act ((σ × List Raw × Bool) × Bool) := do
    let (inner, before, _) := state
    let (lines, rest) := cutLines terminator before piece
    let (inner, goesOn) ← foldSome (action true) inner lines
    return ((inner, rest, goesOn), goesOn)
  let ((inner, rest, goesOn), result) ← foldInput descriptor step roundLimit (state, [], true)
  let last := rest.reverse.flatten
  if goesOn && last ≠ [] then
    let (inner, _) ← action false inner last
    return (inner, result)
  else return (inner, result)

/-- Go through the lines of files one after another; a file that cannot be read is complained about,
and makes the status one of failure. -/
def foldFileLines {σ : Type} (terminator : Char) (action : Bool → σ → Raw → Act (σ × Bool))
    (state : σ) (paths : List Raw) : Act (σ × Nat) := do
  let mut state := state
  let mut status := 0
  for path in paths do
    let before := state
    match ← withInput path fun descriptor => foldLines terminator descriptor action before with
    | .error error => do
        complainOfFile path error
        status := 1
    | .ok (after, .ok ()) => state := after
    | .ok (after, .error error) => do
        state := after
        complainOfFile path error
        status := 1
  return (state, status)

/-- The lines of a text without their ends, and whether the last one has an end. -/
def linesOf (terminator : Char) (text : Raw) : List Raw × Bool :=
  match (Raw.splitOn terminator text).reverse with
  | [] => ([], true)
  | [] :: lines => (lines.reverse, true)
  | last :: lines => ((last :: lines).reverse, false)

/-- All that can be read from a file; give up if it cannot. -/
def contentOf (path : Raw) : Act (Except SystemError Raw) := do
  match ← withInput path readAll with
  | .error error => return .error error
  | .ok result => return result

end Utility

end EditorBridge
