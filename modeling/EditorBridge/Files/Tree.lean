import EditorBridge.Files.Path
import EditorBridge.Host.SystemError

/-!
# File trees

A tree gives an entry to each location, a list of names from the root.  A path leads to a location
by single steps, each out of a directory that must exist; the last step may lead to a location
without an entry.  Every operation that changes a tree gives the tree back also when it fails,
because what was done before the failure stays done.
-/
namespace EditorBridge

open Host (SystemError)

abbrev Location := List Bytes

inductive Entry where
  | directory
  | file (content : Bytes) (executable : Bool)
  deriving DecidableEq, Repr

/-- The entries of a file system, other than the root. -/
structure FileTree where
  entries : List (Location × Entry)
  deriving DecidableEq, Repr

namespace FileTree

def empty : FileTree := ⟨[]⟩

/-- The entry at a location; the root is always a directory. -/
def entry? (tree : FileTree) (location : Location) : Option Entry :=
  if location = [] then some .directory else tree.entries.lookup location

/-- The tree with an entry at a location, in place of the one that was there. -/
def put (tree : FileTree) (location : Location) (entry : Entry) : FileTree :=
  ⟨(location, entry) :: tree.entries.filter fun other => other.1 ≠ location⟩

/-- The tree without anything at or below a location. -/
def remove (tree : FileTree) (location : Location) : FileTree :=
  ⟨tree.entries.filter fun other => !location.isPrefixOf other.1⟩

/-- The greatest length of a name. -/
def nameLimit : Nat := 255

/-- The least length of a path that is too long. -/
def pathLimit : Nat := 4096

def step (tree : FileTree) (location : Location) (name : Bytes) : Except SystemError Location :=
  match tree.entry? location with
  | none => .error .noEntry
  | some (.file _ _) => .error .notDirectory
  | some .directory =>
      if Path.isIdle name then .ok location
      else if name = Path.dotDot then .ok location.dropLast
      else if name.length > nameLimit then .error .nameTooLong
      else .ok (location ++ [name])

/-- The location that some of the names of a path lead to, whether or not there is an entry. -/
def walk (tree : FileTree) (directory : Location) (path : Path) (names : List Bytes) :
    Except SystemError Location :=
  if path.contains 0 then .error .nulInPath
  else if path = [] then .error .noEntry
  else if path.length ≥ pathLimit then .error .nameTooLong
  else names.foldlM (step tree) (if Path.isAbsolute path then [] else directory)

/-- The location that a path leads to, whether or not there is an entry. -/
def locate (tree : FileTree) (directory : Location) (path : Path) : Except SystemError Location :=
  tree.walk directory path (Path.split path)

/-- The location of a file that may have to be made first.  A path that ends with a slash means a
directory, so no file can be made there. -/
def locateFile (tree : FileTree) (directory : Location) (path : Path) :
    Except SystemError Location :=
  if path.getLast? = some Path.slash then do
    let _ ← tree.walk directory path ((Path.split path).reverse.dropWhile (· = [])).reverse
    throw .isDirectory
  else tree.locate directory path

def find (tree : FileTree) (directory : Location) (path : Path) :
    Except SystemError (Location × Entry) := do
  let location ← tree.locate directory path
  match tree.entry? location with
  | some entry => return (location, entry)
  | none => throw .noEntry

def pathExists (tree : FileTree) (directory : Location) (path : Path) : Bool :=
  match tree.find directory path with
  | .ok _ => true
  | .error _ => false

def isDirectory (tree : FileTree) (directory : Location) (path : Path) : Bool :=
  match tree.find directory path with
  | .ok (_, .directory) => true
  | _ => false

def isFile (tree : FileTree) (directory : Location) (path : Path) : Bool :=
  match tree.find directory path with
  | .ok (_, .file _ _) => true
  | _ => false

def isExecutable (tree : FileTree) (directory : Location) (path : Path) : Bool :=
  match tree.find directory path with
  | .ok (_, .file _ executable) => executable
  | _ => false

def read (tree : FileTree) (directory : Location) (path : Path) : Except SystemError Bytes := do
  match ← tree.find directory path with
  | (_, .file content _) => return content
  | (_, .directory) => throw .isDirectory

abbrev Changed := FileTree × Except SystemError Unit

/-- Make an entry at a location, where there must be none. -/
def create (tree : FileTree) (entry : Entry) : Except SystemError Location → Changed
  | .error error => (tree, .error error)
  | .ok location =>
      match tree.entry? location with
      | some _ => (tree, .error .alreadyThere)
      | none => (tree.put location entry, .ok ())

def makeDirectory (tree : FileTree) (directory : Location) (path : Path) : Changed :=
  tree.create .directory (tree.locate directory path)

/-- Make an empty file that must not exist yet. -/
def createFile (tree : FileTree) (directory : Location) (path : Path) : Changed :=
  tree.create (.file [] false) (tree.locateFile directory path)

/-- Make a directory unless it is there, and before that those of the parents that are missing.  The
paths run from the directory to its last parent. -/
def makeDirectories (tree : FileTree) (directory : Location) : List Path → Changed
  | [] => (tree, .ok ())
  | [] :: _ => (tree, .ok ())
  | path :: parents =>
      let unlessThere : Changed → Changed
        | (tree, .ok ()) => (tree, .ok ())
        | (tree, .error error) =>
            (tree, if tree.isDirectory directory path then .ok () else .error error)
      match tree.makeDirectory directory path with
      | (tree, .error error) =>
          if error = .noEntry then
            match makeDirectories tree directory parents with
            | (tree, .ok ()) => unlessThere (tree.makeDirectory directory path)
            | failed => failed
          else unlessThere (tree, .error error)
      | made => made

/-- Write a file, in place of its content or after it. -/
def write (tree : FileTree) (directory : Location) (path : Path) (append : Bool) (bytes : Bytes) :
    Changed :=
  match tree.locateFile directory path with
  | .error error => (tree, .error error)
  | .ok location =>
      match tree.entry? location with
      | some .directory => (tree, .error .isDirectory)
      | some (.file content executable) =>
          let content := if append then content ++ bytes else bytes
          (tree.put location (.file content executable), .ok ())
      | none => (tree.put location (.file bytes false), .ok ())

/-- The tree with all that is at or below a location at or below another one, where there is
nothing.
-/
def move (tree : FileTree) (source target : Location) : FileTree :=
  ⟨tree.entries.map fun (location, entry) =>
    if source.isPrefixOf location then (target ++ location.drop source.length, entry)
    else (location, entry)⟩

/-- Whether one byte string comes before another, byte by byte, or equals it. -/
def bytesLe : Bytes → Bytes → Bool
  | [], _ => true
  | _ :: _, [] => false
  | a :: as, b :: bs => if a < b then true else if b < a then false else bytesLe as bs

/-- The names of the entries directly below a location, in the order of their bytes. -/
def namesBelow (tree : FileTree) (location : Location) : List Bytes :=
  (tree.entries.filterMap fun (other, _) =>
    if other.dropLast = location ∧ other ≠ [] then other.getLast? else none).mergeSort bytesLe

/-- All entries below a location, with their paths from there, in the order of the paths' bytes. -/
def below (tree : FileTree) (location : Location) : List (Path × Entry) :=
  (tree.entries.filterMap fun (other, entry) =>
    if location.isPrefixOf other ∧ other.length > location.length then
      some (Path.concat (other.drop location.length), entry)
    else none).mergeSort fun a b => bytesLe a.1 b.1

end FileTree

end EditorBridge
