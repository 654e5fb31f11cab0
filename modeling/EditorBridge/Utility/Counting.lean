import EditorBridge.Utility.Basic

/-!
# Counting

Lines, words, bytes and the greatest width of files, in columns that are as wide as the sizes of the
files suggest.
-/
namespace EditorBridge.Utility

open Host Act

structure Counts where
  lines : Nat
  words : Nat
  bytes : Nat
  /-- The greatest width of a line. -/
  greatest : Nat
  /-- The width of the line so far. -/
  width : Nat
  inWord : Bool
  deriving Repr

namespace Counts

def zero : Counts := ⟨0, 0, 0, 0, 0, false⟩

def ended (counts : Counts) : Counts :=
  { counts with greatest := max counts.greatest counts.width, width := 0, inWord := false }

def add (counts : Counts) (c : Char) : Counts :=
  let counts := { counts with bytes := counts.bytes + 1 }
  match c with
  | '\n' => { counts.ended with lines := counts.lines + 1 }
  | '\r' | '\x0c' => counts.ended
  | '\t' => { counts with width := counts.width + (8 - counts.width % 8), inWord := false }
  | ' ' => { counts with width := counts.width + 1, inWord := false }
  | '\x0b' => { counts with inWord := false }
  | c =>
      if Quoting.isVisible c then
        { counts with
          width := counts.width + 1
          words := if counts.inWord then counts.words else counts.words + 1
          inWord := true }
      else counts

/-- The counts of two files together. -/
def plus (a b : Counts) : Counts :=
  ⟨a.lines + b.lines, a.words + b.words, a.bytes + b.bytes, max a.greatest b.greatest, 0, false⟩

/-- The counts that are asked for, in the order in which they are shown. -/
def chosen (letters : Raw) (counts : Counts) : List Nat :=
  let columns : List (Char × Nat) :=
    [('l', counts.lines), ('w', counts.words), ('m', counts.bytes), ('c', counts.bytes),
      ('L', counts.greatest)]
  (columns.filter fun column => letters.contains column.1).map (·.2)

end Counts

def inColumn (width : Nat) (n : Nat) : Raw :=
  let digits := Raw.ofNat n
  List.replicate (width - digits.length) ' ' ++ digits

/-- The size of a file, if it is a regular one; nothing is known of one that is not there. -/
def sizeOf (path : Raw) : Act (Option (Option Nat)) := do
  let files := (← machine).files
  if path = ['-'] then
    match ← channel? 0 with
    | some (.file index) =>
        match ((← machine).opened[index]?).bind fun opened => files.entry? opened.location with
        | some (.file content _) => return some (some content.length)
        | _ => return some none
    | _ => return some none
  else
    match files.find (← task).directory (Raw.toBytes path) with
    | .ok (_, .file content _) => return some (some content.length)
    | .ok (_, .directory) => return some none
    | .error _ => return none

/-- How wide the columns are: as the sizes of the files together, but wider if some files have no
size. -/
def columnWidth (columns : Nat) (paths : List Raw) : Act Nat := do
  if paths.length ≤ 1 && columns = 1 then return 1
  let mut total := 0
  let mut least := 1
  for path in orInput paths do
    match ← sizeOf path with
    | some (some size) => total := total + size
    | some none => least := 7
    | none => pure ()
  return max least (Raw.ofNat total).length

/-- When a line for all files together is shown. -/
def showsTotal (options : Options) (paths : List Raw) : Act Bool := do
  match options.value? 't' with
  | none => return 1 < paths.length
  | some value =>
      match ["auto", "always", "only", "never"].find? fun name => value.isPrefixOf name.toList with
      | some "auto" => return 1 < paths.length
      | some "never" => return false
      | some _ => return true
      | none => misuse ("invalid argument ".toList ++ Quoting.shown value ++
          " for '--total'\nValid arguments are:\n".toList ++
          "  - 'auto'\n  - 'always'\n  - 'only'\n  - 'never'".toList)

/-- Count lines, words and bytes of files. -/
def wc : Utility := fun arguments => do
  let options ← optionsOf (table "clLmw"
    [("bytes", .none, 'c'), ("chars", .none, 'm'), ("lines", .none, 'l'), ("words", .none, 'w'),
      ("max-line-length", .none, 'L'), ("total", .required, 't')]) arguments
  let asked := (options.found.map (·.1)).filter "clmwL".toList.contains
  let letters := if asked.isEmpty then "lwc".toList else asked
  let paths := options.operands
  let total ← showsTotal options paths
  let only := (options.value? 't').any fun value => value.head? = some 'o'
  let width ← if only then pure 1 else columnWidth (Counts.zero.chosen letters).length paths
  let show' (counts : Counts) (name : Raw) : Act Unit :=
    putLine (Raw.join [' '] ((counts.chosen letters).map (inColumn width)) ++
      (if name = [] then [] else ' ' :: name))
  let mut sum := Counts.zero
  let mut status := 0
  for path in orInput paths do
    let name := if paths.isEmpty then [] else if path.contains '\n' then Quoting.name path else path
    let action (counts : Counts) (piece : Raw) : Act (Counts × Bool) :=
      return (piece.foldl Counts.add counts, true)
    match ← withInput path fun descriptor => foldInput descriptor action roundLimit .zero with
    | .error error => do
        complainOfFile path error
        status := 1
    | .ok (counts, outcome) => do
        match outcome with
        | .ok () => pure ()
        | .error error => do
            complainOfFile (if paths.isEmpty then inputName path else path) error
            status := 1
        let counts := counts.ended
        if !only then show' counts name
        sum := sum.plus counts
  if total then show' sum (if only then [] else "total".toList)
  return status

end EditorBridge.Utility
