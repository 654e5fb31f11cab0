import EditorBridge.Format.Printing
import EditorBridge.Shell.Condition
import EditorBridge.Shell.Variables

/-!
# Simple commands of the shell

Commands that need nothing but their arguments and what the shell remembers: they write, judge, go
to another directory, or end loops, functions and the shell.
-/
namespace EditorBridge.Shell

open Host Act

/-- A command of the shell: what it does with its arguments until it has a status. -/
abbrev Builtin := List Raw → Act Nat

namespace Builtin

def ofBool (holds : Bool) : Nat := if holds then 0 else 1

def succeed : Builtin := fun _ => return 0

def fail : Builtin := fun _ => return 1

/-- Write the arguments, separated by blanks, with escapes interpreted. -/
def echo : Builtin := fun arguments => do
  let silent := arguments.head? = some "-n".toList
  let text := Raw.join [' '] (if silent then arguments.drop 1 else arguments)
  let interpreted := Format.interpret .shell .echo text
  say (if interpreted.goesOn && !silent then interpreted.text ++ ['\n'] else interpreted.text)
  return 0

def printf : Builtin := fun arguments => do
  match (← takeOptions [] arguments).2 with
  | [] => Shell.fail "usage: printf format [arg ...]".toList
  | format :: arguments => do
      let outcome := Format.print .shell format arguments
      for printed in outcome.printed do
        match printed with
        | .text raw => say raw
        | .complaint raw => warn raw
      match outcome.fault with
      | some complaint => Shell.fail complaint
      | none => return ofBool outcome.good

def test : Builtin := fun arguments => do
  let place : Condition.Place := ⟨(← machine).files, (← task).directory⟩
  match Condition.judge place (arguments.length + 1) arguments with
  | .ok holds => return ofBool holds
  | .error fault => Shell.fail fault.message

def bracket : Builtin := fun arguments => do
  if arguments.getLast? = some [']'] then test arguments.dropLast
  else Shell.fail "missing ]".toList

def times : Builtin := fun _ => do
  let none := "0m0.000000s 0m0.000000s".toList
  sayLine none
  sayLine none
  return 0

def workingPath : Act Raw :=
  return '/' :: Raw.ofBytes (Path.concat (← task).directory)

/-- Write the working directory. -/
def pwd : Builtin := fun arguments => do
  let _ ← takeOptions [('L', false), ('P', false)] arguments
  sayLine (← workingPath)
  return 0

/-- Go to a directory, and remember the one before. -/
def enter (location : Location) : Act Unit := do
  let former ← workingPath
  modifyTask fun task => { task with directory := location }
  modifyMemory fun memory =>
    { memory with located := memory.located.map fun located => { located with isStale := true } }
  setMarked true "OLDPWD".toList former
  setMarked true "PWD".toList (← workingPath)

def isExplicit (path : Raw) : Bool :=
  match path with
  | '/' :: _ | ['.'] | '.' :: '/' :: _ | ['.', '.'] | '.' :: '.' :: '/' :: _ => true
  | _ => false

/-- Change the working directory. -/
def cd : Builtin := fun arguments => do
  let (_, arguments) ← takeOptions [('L', false), ('P', false)] arguments
  let memory ← memory
  let returning := arguments.head? = some ['-']
  let target := if returning then (memory.valueOf? "OLDPWD").getD []
    else arguments.headD ((memory.valueOf? "HOME").getD [])
  let target := if target = [] then ['.'] else target
  let places := Raw.splitOn ':' ((memory.valueOf? "CDPATH").getD [])
  let candidates := if isExplicit target then [] else
    places.map fun place => (place, if place = [] then target else place ++ '/' :: target)
  let files := (← machine).files
  let directory := (← task).directory
  let directoryAt? (path : Raw) : Option Location :=
    match files.find directory (Raw.toBytes path) with
    | .ok (location, .directory) => some location
    | _ => none
  let found := candidates.findSome? fun (place, path) =>
    (directoryAt? path).map fun location => (location, place ≠ [])
  match found.or ((directoryAt? target).map fun location => (location, false)) with
  | none => Shell.fail ("can't cd to ".toList ++ arguments.headD target)
  | some (location, isElsewhere) => do
      enter location
      if returning || isElsewhere then sayLine (← workingPath)
      return 0

/-- The permissions of one kind of user as letters. -/
def letters (bits : Nat) : Raw :=
  (if bits &&& 4 ≠ 0 then ['r'] else []) ++ (if bits &&& 2 ≠ 0 then ['w'] else []) ++
    (if bits &&& 1 ≠ 0 then ['x'] else [])

/-- The permissions that letters stand for. -/
def bitsOf? (text : Raw) : Option Nat :=
  text.foldlM (fun bits c => match c with
    | 'r' => some (bits ||| 4)
    | 'w' => some (bits ||| 2)
    | 'x' => some (bits ||| 1)
    | _ => none) 0

def clause? (permissions : Nat) (text : Raw) : Option Nat := do
  let who := text.takeWhile "ugoa".toList.contains
  let operator ← (text.drop who.length).head?
  let bits ← bitsOf? (text.drop (who.length + 1))
  let everybody := who = [] || who.contains 'a'
  let selected := (if everybody || who.contains 'u' then 64 else 0) +
    (if everybody || who.contains 'g' then 8 else 0) +
    (if everybody || who.contains 'o' then 1 else 0)
  let meant := selected * bits
  match operator with
  | '+' => return permissions ||| meant
  | '-' => return permissions &&& (511 - meant)
  | '=' => return (permissions &&& (511 - selected * 7)) ||| meant
  | _ => none

/-- Show or change the permissions that new files do not get. -/
def umask : Builtin := fun arguments => do
  let (found, arguments) ← takeOptions [('S', false)] arguments
  let mask := (← task).mask
  match arguments with
  | [] => do
      let open' := 511 - mask
      if found.isEmpty then
        let digits := Nat.toDigits 8 mask
        sayLine (List.replicate (4 - digits.length) '0' ++ digits)
      else
        sayLine ("u=".toList ++ letters (open' / 64) ++ ",g=".toList ++ letters (open' / 8 % 8) ++
          ",o=".toList ++ letters (open' % 8))
      return 0
  | argument :: _ =>
      if argument.head?.any Char.isDigit then
        if argument.all fun c => (Format.octal? c).isSome then do
          let mask := argument.foldl (fun n c => n * 8 + (Format.octal? c).getD 0) 0
          modifyTask fun task => { task with mask := mask % 512 }
          return 0
        else illegalNumber argument
      else match (Raw.splitOn ',' argument).foldlM clause? (511 - mask) with
        | some permissions => do
            modifyTask fun task => { task with mask := 511 - permissions }
            return 0
        | none => Shell.fail ("Illegal mode: ".toList ++ argument)

/-- The number that a command is given, or else another one. -/
def countOr (fallback : Nat) : List Raw → Act Nat
  | [] => return fallback
  | argument :: _ => countOf argument

def exit : Builtin := fun arguments => do
  let memory ← memory
  throw (.exited ((← countOr (memory.trapStatus.getD memory.status) arguments) % 256))

/-- End a function or a script that was read in. -/
def returnFrom : Builtin := fun arguments => do
  throw (.returned (← countOr (← memory).status arguments))

/-- How many loops are meant: at most those that there are. -/
def levels (arguments : List Raw) : Act Nat := do
  let n ← countOr 1 arguments
  if n = 0 then illegalNumber (arguments.headD [])
  else return min n (← memory).loops

def breakOut : Builtin := fun arguments => do
  let levels ← levels arguments
  if levels = 0 then return 0 else throw (.breaking levels)

/-- Go on with the next round of a loop. -/
def goOn : Builtin := fun arguments => do
  let levels ← levels arguments
  if levels = 0 then return 0 else throw (.continuing levels)

def shift : Builtin := fun arguments => do
  let n ← countOr 1 arguments
  if (← memory).arguments.length < n then Shell.fail "can't shift that many".toList
  modifyMemory fun memory =>
    { memory with arguments := memory.arguments.drop n, place := ⟨1, none⟩ }
  return 0

end Builtin

end EditorBridge.Shell
