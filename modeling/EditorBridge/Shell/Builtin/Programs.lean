import EditorBridge.Shell.Builtin.Basic
import EditorBridge.Shell.Lookup
import EditorBridge.Shell.Token

/-!
# Commands of the shell about programs

One lets a program take the place of the shell; the others say what names stand for.
-/
namespace EditorBridge.Shell.Builtin

open Host Act

def execute : Builtin := fun arguments => do
  match (← takeOptions [] arguments).2 with
  | [] => return 0
  | name :: arguments => do
      let memory ← memory
      match ← loadCommand memory.searchPlaces name arguments with
      | .ok loaded => do
          modifyTask fun task => { task with environment := memory.environment }
          throw (.becoming loaded)
      | .error error => do
          complain name error
          throw (.exited (executionStatus error))

/-- Say what a name stands for, in words or just as a command could name it. -/
def describe (inWords standard : Bool) (name : Raw) : Act Nat := do
  let memory ← memory
  let plainly (words : String) : Act Nat := do
    sayLine (if inWords then name ++ words.toList else name)
    return 0
  let at' (path : Raw) (tracked : Bool) : Act Nat := do
    let words := if tracked then " is a tracked alias for " else " is "
    sayLine (if inWords then name ++ words.toList ++ path else path)
    return 0
  let missing : Act Nat := do
    if inWords then sayLine (name ++ ": not found".toList)
    return 127
  if isAmong Token.keywords name then plainly " is a shell keyword"
  else match memory.aliases.lookup name with
  | some value => do
      if inWords then sayLine (name ++ " is an alias for ".toList ++ value)
      else say (declaration "alias ".toList name (some value))
      return 0
  | none =>
      if (memory.functions.lookup name).isSome then plainly " is a shell function"
      else if isSpecialBuiltin name then plainly " is a special shell builtin"
      else if isBuiltin name then plainly " is a shell builtin"
      else if name.contains '/' then
        if (← machine).files.pathExists (← task).directory (Raw.toBytes name) then
          at' name false
        else missing
      else
        match (if standard then none else memory.located.find? (·.name = name)) with
        | some located => at' located.path true
        | none =>
            match ← if standard then look standardPlaces name else track name with
            | .ok (_, path) => at' path false
            | .error _ => missing

/-- Say what names stand for. -/
def type' : Builtin := fun arguments => do
  let mut status := 0
  for name in arguments do
    status := status ||| (← describe true false name)
  return status

/-- Say what a name stands for, if that is asked for. -/
def command : Builtin := fun arguments => do
  let (found, names) ← takeOptions [('p', false), ('v', false), ('V', false)] arguments
  let asked := found.any fun option => option.1 ≠ 'p'
  match names with
  | name :: _ =>
      if asked then
        describe (found.any fun option => option.1 = 'V') (found.any fun option => option.1 = 'p')
          name
      else return 0
  | [] => return 0

/-- Programs that have been looked for are kept in so many rows. -/
def rowCount : Nat := 31

/-- Show programs that have been looked for, forget them, or look for some. -/
def hash : Builtin := fun arguments => do
  let (found, names) ← takeOptions [('r', false)] arguments
  if !found.isEmpty then
    modifyMemory fun memory => { memory with located := [] }
    return 0
  if names.isEmpty then
    let located := (← memory).located
    for index in List.range rowCount do
      for entry in located do
        if Memory.rowNumber entry.name % rowCount = index then
          sayLine (entry.path ++ (if entry.isStale then ['*'] else []))
    return 0
  let mut status := 0
  for name in names do
    if !name.contains '/' && !isBuiltin name && ((← memory).functions.lookup name).isNone then
      modifyMemory fun memory =>
        { memory with located := memory.located.filter (·.name ≠ name) }
      match ← track name with
      | .ok _ => pure ()
      | .error error => do
          complain name error
          status := 1
  return status

end EditorBridge.Shell.Builtin
