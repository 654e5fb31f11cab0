import EditorBridge.Regex.Basic

/-!
# Scripts for editing lines

A script is a list of commands that are carried out for each line of the input, or for the lines
that they are meant for.
-/
namespace EditorBridge.Utility.Editing

inductive Address where
  | line (number : Nat)
  /-- A line and every so many after it. -/
  | step (first interval : Nat)
  | last
  /-- A line that a regular expression matches, or the one that was used last. -/
  | matching (regex : Option Regex)

inductive Finish where
  | at (address : Address)
  /-- So many lines later. -/
  | later (count : Nat)
  /-- The next line whose number is a multiple. -/
  | multiple (divisor : Nat)

/-- What becomes of the letters that come. -/
inductive Casing where
  | upper
  | lower
  | plain
  /-- Only of the next one. -/
  | nextUpper
  | nextLower
  deriving DecidableEq, Repr

/-- A piece of what is put in place of a match. -/
inductive Piece where
  | text (raw : Raw)
  | group (index : Nat)
  | casing (casing : Casing)
  deriving DecidableEq, Repr

structure Substitution where
  regex : Option Regex
  pieces : List Piece
  /-- The first match that counts. -/
  number : Nat
  /-- Whether the matches after it count, too. -/
  every : Bool
  prints : Bool
  /-- Whether the result is carried out as a command of a shell. -/
  evaluates : Bool
  file : Option Raw

/-- When a command goes on elsewhere. -/
inductive Jump where
  | always
  | ifChanged
  | ifUnchanged
  deriving DecidableEq, Repr

/-- What a command does. -/
inductive Action where
  /-- Carry out the commands up to another one, or go on behind that. -/
  | block (finish : Nat)
  | blockEnd
  | label (name : Raw)
  | jump (kind : Jump) (label : Raw)
  | append (text : Raw)
  | insert (text : Raw)
  | change (text : Raw)
  | substitute (substitution : Substitution)
  | replaceEach (pairs : List (Char × Char))
  | delete
  | deleteLine
  | print
  | printLine
  | next
  | appendNext
  | get
  | getMore
  | hold
  | holdMore
  | exchange
  | number
  | fileName
  | list (width : Option Nat)
  | quit (status : Nat) (silent : Bool)
  | readFile (path : Raw)
  | readLine (path : Raw)
  | writeFile (path : Raw)
  | writeLine (path : Raw)
  | clear
  | execute (command : Raw)

/-- A command, and the lines that it is meant for. -/
structure Command where
  first : Option Address
  finish : Option Finish
  negated : Bool
  action : Action

def Command.target? (command : Command) : Option Raw :=
  match command.action with
  | .writeFile path | .writeLine path => some path
  | .substitute substitution => substitution.file
  | _ => none

structure Script where
  commands : Array Command
  /-- Whether lines are written only if a command says so. -/
  quiet : Bool

def Script.placeOf? (script : Script) (name : Raw) : Option Nat :=
  script.commands.findIdx? fun command => match command.action with
    | .label other => other = name
    | _ => false

end EditorBridge.Utility.Editing
