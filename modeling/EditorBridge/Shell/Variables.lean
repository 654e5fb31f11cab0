import EditorBridge.Shell.Complaint

/-!
# Variables of a shell

A variable that must not be changed is never changed: who tries has failed.  What a command changes
for itself only is written down before, so that it can be as it was.
-/
namespace EditorBridge.Shell

open Host Act

/-- A text between apostrophes; runs of apostrophes stand between double quotes. -/
def apostrophized : Nat → Raw → Raw
  | 0, _ => []
  | fuel + 1, text =>
      let piece := text.takeWhile (· ≠ '\'')
      let run := (text.drop piece.length).takeWhile (· = '\'')
      let rest := text.drop (piece.length + run.length)
      let quoted := '\'' :: piece ++ ['\'']
      if run = [] then quoted
      else quoted ++ '"' :: run ++ '"' :: (if rest = [] then [] else apostrophized fuel rest)

def quotedText (text : Raw) : Raw := apostrophized (text.length + 1) text

/-- Whether a variable must not be changed. -/
def isReadOnly (name : Raw) : Act Bool := return ((← memory).entry name).isReadOnly

/-- Give up if a variable must not be changed. -/
def insistOnChange (name : Raw) : Act Unit := do
  if ← isReadOnly name then fail (name ++ ": is read only".toList)

/-- What is to be done when a variable that the shell goes by gets a value. -/
def watched (name value : Raw) (memory : Memory) : Memory :=
  if name = "PATH".toList then { memory with located := [] }
  else if name = "OPTIND".toList then
    { memory with
      place := ⟨max 1 ((Arithmetic.count? value).getD 1), none⟩ }
  else memory

/-- No value is longer than this unless it becomes longer and longer. -/
def valueLimit : Nat := 1048576

/-- Give a variable a value; it may be marked for other programs. -/
def setMarked (exporting : Bool) (name value : Raw) : Act Unit := do
  insistOnChange name
  labourFor value
  if valueLimit < value.length then throw .overdue
  if name = "OPTIND".toList && (Arithmetic.count? value).isNone then illegalNumber value
  modifyMemory fun memory =>
    let entry := memory.entry name
    let entry :=
      { entry with
        value := some value
        isExported := entry.isExported || exporting || memory.isOn 'a' }
    watched name value (memory.putVariable name entry)

def setVariable (name value : Raw) : Act Unit := setMarked false name value

def unsetVariable (name : Raw) : Act Unit := do
  insistOnChange name
  modifyMemory fun memory => watched name [] (memory.dropVariable name)

/-- Mark a variable, which need not have a value. -/
def mark (change : Variable → Variable) (name : Raw) : Act Unit :=
  modifyMemory fun memory => memory.putVariable name (change (memory.entry name))

/-- Write down what a variable is now. -/
def save (name : Raw) : Act Unit :=
  modifyMemory fun memory =>
    { memory with saved := .variable name (memory.binding? name) :: memory.saved }

/-- Write down which options are on now. -/
def saveOptions : Act Unit :=
  modifyMemory fun memory => { memory with saved := .options memory.options :: memory.saved }

/-- Restore what has been written down, except for so many changes. -/
def restoreTo (count : Nat) : Act Unit := modifyMemory fun memory => memory.restoreTo count

/-- The name at the start of a text and what comes after it. -/
def nameAhead (text : Raw) : Raw × Raw :=
  if text.head?.any startsName then
    let name := text.takeWhile isNameChar
    (name, text.drop name.length)
  else ([], text)

/-- The name and the value in an argument, which must start with a name. -/
def assignmentIn (argument : Raw) : Act (Raw × Option Raw) := do
  match nameAhead argument with
  | (name@(_ :: _), []) => return (name, none)
  | (name@(_ :: _), '=' :: value) => return (name, some value)
  | _ => fail (argument.takeWhile (· ≠ '=') ++ ": bad variable name".toList)

/-- A line that says what a variable is, after some words. -/
def declaration (before name : Raw) (value : Option Raw) : Raw :=
  before ++ name ++ (match value with
    | some value => '=' :: quotedText value
    | none => []) ++ ['\n']

/-- The variables of some kind in the order of their names. -/
def sortedBindings (bindings : List (Raw × Variable)) (kind : Variable → Bool) :
    List (Raw × Variable) :=
  (bindings.filter fun entry => kind entry.2).mergeSort fun a b =>
    FileTree.bytesLe (Raw.toBytes a.1) (Raw.toBytes b.1)

end EditorBridge.Shell
