import EditorBridge.Host.Image
import EditorBridge.Shell.Variables

/-!
# What names of commands stand for

A name with a slash is a path; other names are keywords, aliases, functions, commands of the shell
itself, or programs in one of the search places.  A program that has been found is remembered until
the search places change.
-/
namespace EditorBridge.Shell

open Host Act

/-- Commands of the shell that behave like programs. -/
def plainBuiltins : List String :=
  ["alias", "bg", "cd", "chdir", "command", "echo", "false", "fg", "getopts", "hash", "jobs",
    "kill", "printf", "pwd", "read", "test", "[", "true", "type", "ulimit", "umask", "unalias",
    "wait"]

def isAmong (names : List String) (name : Raw) : Bool := names.any fun other => other.toList = name

/-- Whether a failure of a command ends the shell. -/
def isSpecialBuiltin (name : Raw) : Bool := isAmong specialBuiltins name

def isBuiltin (name : Raw) : Bool := isSpecialBuiltin name || isAmong plainBuiltins name

/-- Whether arguments of a command that are assignments are expanded as such. -/
def isDeclaring (name : Raw) : Bool := isAmong ["alias", "export", "readonly", "local"] name

/-- The places of programs that come with the system. -/
def standardPlaces : List Raw :=
  Raw.splitOn ':' "/usr/local/sbin:/usr/local/bin:/usr/sbin:/usr/bin:/sbin:/bin".toList

/-- Look for a program in places, the first of which has a number: for a file that can be executed.
Otherwise there is a reason why there is none. -/
def lookIn (files : FileTree) (directory : Location) (name : Raw) :
    Nat → SystemError → List Raw → Except SystemError (Nat × Raw)
  | _, reason, [] => .error reason
  | index, reason, place :: rest =>
      let path := Image.pathIn place name
      match files.find directory (Raw.toBytes path) with
      | .ok (_, .file _ true) => .ok (index, path)
      | .ok _ => lookIn files directory name (index + 1) .denied rest
      | .error error =>
          let reason := if Image.isAbsence error then reason else error
          lookIn files directory name (index + 1) reason rest

def look (places : List Raw) (name : Raw) : Act (Except SystemError (Nat × Raw)) := do
  return lookIn (← machine).files (← task).directory name 0 .noEntry places

/-- Why a program cannot be executed, as complaints have it. -/
def executionFault (error : SystemError) : Raw :=
  if Image.isAbsence error then "not found".toList
  else match error with
    | .number n => (SystemError.text n).toList
    | error => error.message.toList

def executionStatus (error : SystemError) : Nat :=
  if Image.isAbsence error || error = .number 40 || error = .nameTooLong then 127 else 126

/-- Look for a program in the search places, and remember where it is. -/
def track (name : Raw) : Act (Except SystemError (Nat × Raw)) := do
  let memory ← memory
  match memory.located.find? fun located => located.name = name && !located.isStale with
  | some located => return .ok (located.index, located.path)
  | none => do
      let found ← look memory.searchPlaces name
      let others := memory.located.filter (·.name ≠ name)
      let known := memory.located.any (·.name = name)
      let remembered : List Located := match found with
        | .ok (index, path) =>
            let located : Located := ⟨name, index, path, false⟩
            if known then
              memory.located.map fun other => if other.name = name then located else other
            else others ++ [located]
        | .error _ => others
      modifyMemory fun memory => { memory with located := remembered }
      return found

/-- Say why a command cannot be carried out. -/
def complain (name : Raw) (error : SystemError) : Act Unit :=
  warn (name ++ ": ".toList ++ executionFault error)

/-- The shell that scripts without an interpreter are for. -/
def scriptShell : Raw := "/bin/sh".toList

/-- What the file at a path executes as.  A text in which no program is named is a script. -/
def loadAt (files : FileTree) (directory : Location) (name : Raw) (arguments : List Raw)
    (path : Raw) : Except SystemError Loaded :=
  match Image.load files directory name arguments path with
  | .ok loaded => .ok loaded
  | .error error =>
      let isScript := match Image.executable files directory path with
        | .ok content => Image.isText content
        | .error _ => false
      if error = .notExecutable && isScript then
        Image.load files directory scriptShell (path :: arguments) scriptShell
      else .error error

/-- What a program executes as that is in the first of some places where it can be executed. -/
def loadFrom (files : FileTree) (directory : Location) (name : Raw) (arguments : List Raw)
    (reason : SystemError) : List Raw → Except SystemError Loaded
  | [] => .error reason
  | place :: rest =>
      match loadAt files directory name arguments (Image.pathIn place name) with
      | .ok loaded => .ok loaded
      | .error error =>
          let reason := if Image.isAbsence error then reason else error
          loadFrom files directory name arguments reason rest

/-- What a command executes as that is a path or a program in one of some places. -/
def loadCommand (places : List Raw) (name : Raw) (arguments : List Raw) :
    Act (Except SystemError Loaded) := do
  let files := (← machine).files
  let directory := (← task).directory
  if name.contains '/' then return loadAt files directory name arguments name
  else return loadFrom files directory name arguments .noEntry places

end EditorBridge.Shell
