import EditorBridge.Host.Machine

/-!
# Files that can be executed

A program is installed as a file whose content names it; a script starts with the path of the
program that interprets it.  A file that is neither cannot be executed, but a shell reads it as a
script of its own if it looks like a text.
-/
namespace EditorBridge.Host.Image

/-- What the content of an installed program starts with. -/
def magic : Raw :=
  "\x7fELF\x02\x01\x01\x00\x00\x00\x00\x00\x00\x00\x00\x00\x03\x00\x3e\x00 installed as ".toList

def file (name : Raw) : Entry := .file (Raw.toBytes (magic ++ name)) true

/-- How much of a script is looked at for its interpreter. -/
def headerSize : Nat := 256

/-- Blanks in the first line of a script. -/
def isBlank (c : Char) : Bool := c = ' ' || c = '\t'

/-- A text without the blanks at its end. -/
def trimEnd (text : Raw) : Raw := (text.reverse.dropWhile isBlank).reverse

/-- The interpreter that a first line names, and the one argument it may have for it. -/
def interpreterIn (line : Raw) : Raw × List Raw :=
  let line := line.dropWhile isBlank
  let name := line.takeWhile fun c => !isBlank c && c ≠ '\x00'
  match line.drop name.length with
  | [] => (name, [])
  | c :: rest =>
      if c = '\x00' then (name, [])
      else
        match (rest.dropWhile isBlank).takeWhile (· ≠ '\x00') with
        | [] => (name, [])
        | argument => (name, [argument])

/-- The interpreter that a script names, and its argument.  Without an end of the line, what has
been looked at must show where the name ends. -/
def interpreter? (content : Raw) : Option (Raw × List Raw) :=
  match content.take headerSize with
  | '#' :: '!' :: rest =>
      let line := rest.takeWhile fun c => c ≠ '\n' && c ≠ '\x00'
      if rest[line.length]? = some '\n' then
        match trimEnd line with
        | line => if line.all isBlank then none else some (interpreterIn line)
      else
        let isWhole := content.length < headerSize
        let rest := if isWhole then rest ++ ['\x00'] else trimEnd rest
        let named := rest.dropWhile isBlank
        if named = [] || !named.any fun c => isBlank c || c = '\x00' then none
        else some (interpreterIn rest)
  | _ => none

/-- The longest argument that can be passed to a program. -/
def argumentLimit : Nat := 131072

/-- The content of the file at a path, which must be there and executable. -/
def executable (files : FileTree) (directory : Location) (path : Raw) : Except SystemError Raw :=
  match files.find directory (Raw.toBytes path) with
  | .error error => .error error
  | .ok (_, .directory) | .ok (_, .file _ false) => .error .denied
  | .ok (_, .file content true) => .ok (Raw.ofBytes content)

/-- What a file executes as, called by a name with arguments.  An interpreter may be a script
itself, up to some depth. -/
def loadWithin (files : FileTree) (directory : Location) (name : Raw) (arguments : List Raw) :
    Nat → Raw → Except SystemError Loaded
  | 0, path => do
      let _ ← executable files directory path
      throw (.number 40)
  | depth + 1, path => do
      let content ← executable files directory path
      if magic.isPrefixOf content then return ⟨content.drop magic.length, name, arguments⟩
      match interpreter? content with
      | none => throw .notExecutable
      | some ([], _) => throw .denied
      | some (interpreter, more) =>
          loadWithin files directory interpreter (more ++ path :: arguments) depth interpreter

/-- How deep interpreters may be nested. -/
def depthLimit : Nat := 6

def load (files : FileTree) (directory : Location) (name : Raw) (arguments : List Raw)
    (path : Raw) : Except SystemError Loaded :=
  if arguments.any (argumentLimit ≤ ·.length) then .error .tooManyArguments
  else loadWithin files directory name arguments depthLimit path

def pathIn (place name : Raw) : Raw := if place = [] then name else place ++ '/' :: name

/-- Whether an error only means that a file is not there. -/
def isAbsence (error : SystemError) : Bool := error = .noEntry || error = .notDirectory

/-- What a program executes as that is looked up in some directories: the first one found there that
can be executed. -/
def search (files : FileTree) (directory : Location) (name : Raw) (arguments : List Raw)
    (denied : Bool) : List Raw → Except SystemError Loaded
  | [] => .error (if denied then .denied else .noEntry)
  | place :: places =>
      match load files directory name arguments (pathIn place name) with
      | .ok loaded => .ok loaded
      | .error error =>
          if error = .denied then search files directory name arguments true places
          else if isAbsence error then search files directory name arguments denied places
          else .error error

/-- What a program executes as.  A name with a slash is a path. -/
def find (files : FileTree) (directory : Location) (places : List Raw) (name : Raw)
    (arguments : List Raw) : Except SystemError Loaded :=
  if name.isEmpty then .error .noEntry
  else if name.contains '/' then load files directory name arguments name
  else if FileTree.nameLimit < name.length then .error .nameTooLong
  else search files directory name arguments false places

/-- How much of a file is looked at to see whether it is a text. -/
def sampleSize : Nat := 128

/-- Characters that no text has in its first line. -/
def isForeign (c : Char) : Bool :=
  let n := c.toNat
  n < 9 || (16 ≤ n && n < 27) || (28 ≤ n && n < 32) || n = 127

def isText (content : Raw) : Bool :=
  !((content.take sampleSize).takeWhile (· ≠ '\n')).any isForeign

end EditorBridge.Host.Image
