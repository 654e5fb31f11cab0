import EditorBridge.Text.Utf8

/-!
# Paths

A path is a byte string of names separated by slashes.  The parent of a path is a matter of its
text alone: empty names, and `.` anywhere but at the start, do not count as names, and `..` is a
name like any other.  An absolute path ends at the root; a relative one at the empty path, which
stands for the working directory.
-/
namespace EditorBridge

abbrev Path := Bytes

namespace Path

/-- The byte that separates names. -/
def slash : UInt8 := 0x2F

/-- The name of the directory itself. -/
def dot : Bytes := [0x2E]

/-- The name of the directory above. -/
def dotDot : Bytes := [0x2E, 0x2E]

def ofString (s : String) : Path := Utf8.encode s

def text (path : Path) : String := Utf8.decodeLossy path

def isAbsolute (path : Path) : Bool := path.head? = some slash

/-- A path below another.  An absolute path stays what it is. -/
def join (base path : Path) : Path :=
  if isAbsolute path then path
  else if base = [] ∨ base.getLast? = some slash then base ++ path
  else base ++ slash :: path

/-- The names between the slashes, empty ones included. -/
def split : Bytes → List Bytes
  | [] => [[]]
  | b :: rest =>
      if b = slash then [] :: split rest
      else match split rest with
        | [] => [[b]]
        | name :: names => (b :: name) :: names

/-- Names with a slash between each two. -/
def concat : List Bytes → Bytes
  | [] => []
  | [name] => name
  | name :: rest => name ++ slash :: concat rest

def isIdle (name : Bytes) : Bool := name = [] || name = dot

/-- The start of a path that is not a name: the root, or the directory itself when it is written
out.  And the rest of the path. -/
def start : Path → Bytes × Bytes
  | 0x2F :: rest => ([slash], rest)
  | [0x2E] => (dot, [])
  | 0x2E :: 0x2F :: rest => (dot, slash :: rest)
  | path => ([], path)

def names (path : Path) : List Bytes := (split (start path).2).filter fun name => !isIdle name

/-- Whether a path has more than one part, the root and a leading `.` being parts too. -/
def hasParts (path : Path) : Bool :=
  1 < (if (start path).1 = [] then 0 else 1) + (names path).length

/-- The absolute path of a path that is meant from a base, without the names that do not count. -/
def absoluteFrom (base path : Path) : Path :=
  if isAbsolute path then path else (names path).foldl join base

/-- The parents that come from taking names away one by one, the names given from the last to the
first. -/
def parentsFrom (start : Bytes) : List Bytes → List Path
  | [] => if start = dot then [[]] else []
  | name :: rest =>
      if isIdle name then parentsFrom start rest
      else (start ++ concat (rest.dropWhile isIdle).reverse) :: parentsFrom start rest

/-- The parents of a path, from the nearest to the last. -/
def parents (path : Path) : List Path :=
  parentsFrom (start path).1 (split (start path).2).reverse

def parent? (path : Path) : Option Path := (parents path).head?

def ancestors (path : Path) : List Path := path :: parents path

theorem concat_split (bytes : Bytes) : concat (split bytes) = bytes := by
  induction bytes with
  | nil => rfl
  | cons b rest ih =>
    by_cases hb : b = slash
    · cases h : split rest with
      | nil => rw [h] at ih; simp [split, hb, concat, ← ih]
      | cons name names => rw [h] at ih; simp [split, hb, h, concat, ih]
    · cases h : split rest with
      | nil => rw [h] at ih; simp [split, hb, concat, ← ih]
      | cons name names =>
        rw [h] at ih
        cases names with
        | nil => simp [concat] at ih; simp [split, hb, h, concat, ih]
        | cons next more => simp [concat] at ih; simp [split, hb, h, concat, ih]

end Path

end EditorBridge
