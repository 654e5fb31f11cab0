import EditorBridge.Files.Tree
import EditorBridge.Shell.Pattern

/-!
# Fields

An expanded word is a row of stretches.  What an expansion without quotes has put there may be
separated at certain characters, what the expansion of all arguments has put there is separated
between the arguments, and the rest stays together.  Characters without quotes may be patterns for
the names of files.
-/
namespace EditorBridge.Shell

/-- One thing in an expanded word. -/
inductive Atom where
  | char (c : Char) (quoted : Bool)
  /-- A pair of quotes, which makes a field even when there is nothing in it. -/
  | quotes
  /-- The end of an argument before another one. -/
  | gap
  deriving DecidableEq, Repr

inductive Separation where
  | never
  /-- Between arguments only. -/
  | atGaps
  /-- At separators. -/
  | atSeparators
  deriving DecidableEq, Repr

structure Stretch where
  atoms : List Atom
  separation : Separation
  deriving DecidableEq, Repr

namespace Stretch

def ofRaw (quoted : Bool) (text : Raw) : Stretch := ⟨text.map (.char · quoted), .never⟩

def text (stretches : List Stretch) : Raw :=
  stretches.flatMap fun stretch => stretch.atoms.filterMap fun atom => match atom with
    | .char c _ => some c
    | _ => none

/-- The text of stretches, its characters quoted or not. -/
def marked (stretches : List Stretch) : Marked :=
  stretches.flatMap fun stretch => stretch.atoms.filterMap fun atom => match atom with
    | .char c quoted => some (c, quoted)
    | _ => none

end Stretch

/-- What has been found so far when a word is split: the fields that have ended, the latest one
first, and the one that has begun, its last atom first. -/
structure Splitting where
  ended : List (List Atom)
  begun : List Atom

namespace Splitting

/-- Blanks among the separators, of which several count as one. -/
def isBlank : Atom → Bool
  | .char c _ => c = ' ' || c = '\t' || c = '\n'
  | .quotes => false
  | .gap => true

def separates (separators : Raw) : Atom → Bool
  | .char c _ => separators.contains c
  | .quotes => false
  | .gap => true

def finish (splitting : Splitting) : Splitting := ⟨splitting.begun :: splitting.ended, []⟩

def add (splitting : Splitting) (atom : Atom) : Splitting :=
  { splitting with begun := atom :: splitting.begun }

/-- Take in a stretch that is separated.  After a separator further blanks are passed over, and one
separator that is no blank if only blanks came before. -/
def separate (separators : Raw) (strictly : Bool) (splitting : Splitting)
    (skipping blank : Bool) : List Atom → Splitting
  | [] => splitting
  | atom :: rest =>
      if skipping && separates separators atom && (isBlank atom || blank) then
        separate separators strictly splitting true (blank && isBlank atom) rest
      else if !separates separators atom then
        separate separators strictly (splitting.add atom) false false rest
      else
        let blank := !strictly && isBlank atom
        if blank && splitting.begun = [] then
          separate separators strictly splitting false false rest
        else separate separators strictly splitting.finish true blank rest

/-- Take in a stretch that is separated between arguments only. -/
def separateArguments (splitting : Splitting) (atoms : List Atom) : Splitting :=
  atoms.foldl
    (fun splitting atom => if atom = .gap then splitting.finish else splitting.add atom) splitting

/-- Take in stretches; the flag tells that the last one that could be separated was separated
between arguments. -/
def take (separators : Raw) (splitting : Splitting) (afterArguments : Bool) :
    List Stretch → Splitting × Bool
  | [] => (splitting, afterArguments)
  | stretch :: rest =>
      match stretch.separation with
      | .never =>
          take separators (stretch.atoms.foldl add splitting) afterArguments rest
      | .atGaps =>
          take separators (splitting.separateArguments stretch.atoms) true rest
      | .atSeparators =>
          take separators
            (separate separators afterArguments splitting false false stretch.atoms) false rest

end Splitting

/-- The fields of an expanded word.  A last field without anything in it is none, unless it is an
argument. -/
def splitFields (separators : Raw) (stretches : List Stretch) : List Marked :=
  let (splitting, isArgument) := Splitting.take separators ⟨[], []⟩ false stretches
  let fields := if isArgument || splitting.begun ≠ [] then splitting.finish.ended
    else splitting.ended
  fields.reverse.map fun atoms => atoms.reverse.filterMap fun atom => match atom with
    | .char c quoted => some (c, quoted)
    | _ => none

/-- Whether a text may be a pattern for names of files. -/
def isPattern (field : Marked) : Bool :=
  field.any fun (c, quoted) => !quoted && "*?[".toList.contains c

def pathParts (field : Marked) : List Marked :=
  field.foldr
    (fun c parts =>
      if c.1 = '/' then [] :: parts
      else match parts with
        | [] => [[c]]
        | part :: parts => (c :: part) :: parts)
    [[]]

/-- The names in a directory, which is there under two names itself. -/
def namesIn (tree : FileTree) (directory : Location) (path : Raw) : List Raw :=
  let path := if path.isEmpty then ['.'] else path
  match tree.find directory (Raw.toBytes path) with
  | .ok (location, .directory) =>
      ['.'] :: ['.', '.'] :: (tree.entries.filterMap fun entry =>
        if entry.1 ≠ [] ∧ entry.1.dropLast = location then entry.1.getLast?.map Raw.ofBytes
        else none)
  | _ => []

def matchingPaths (tree : FileTree) (directory : Location) : List Raw → List Marked → List Raw
  | starts, [] => starts
  | starts, part :: parts =>
      let next := starts.flatMap fun start =>
        if isPattern part then
          let pieces := pattern part
          let hidden := part.head?.any fun c => c.1 = '.'
          ((namesIn tree directory start).filter fun name =>
            Piece.matchAll pieces name && (hidden || name.head? ≠ some '.')).map (start ++ ·)
        else [start ++ part.map (·.1)]
      let next := if parts.isEmpty then next else next.map (· ++ ['/'])
      matchingPaths tree directory next parts

/-- A field as an argument, or as the names of files that it is a pattern for, in their order. -/
def filesOrField (tree : FileTree) (directory : Location) (field : Marked) : List Raw :=
  let found := if isPattern field then
      (matchingPaths tree directory [[]] (pathParts field)).filter fun path =>
        tree.pathExists directory (Raw.toBytes path)
    else []
  if found.isEmpty then [field.map (·.1)]
  else found.mergeSort fun a b => FileTree.bytesLe (Raw.toBytes a) (Raw.toBytes b)

end EditorBridge.Shell
