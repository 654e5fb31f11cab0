import EditorBridge.Files.Tree

/-!
# Looking programs up

The client program is looked up once, for the log (specification, 9.3), as the `which` library does
it (`lookup_eq_some_iff`).

A program whose name has several parts is meant as a path; any other is looked up in the directories
of the search path, and the first one that may be executed is taken.
-/
namespace EditorBridge.Program

def pathOf (location : Location) : Path := Path.slash :: Path.concat location

def candidates (searchPath : List Path) (directory : Location) (program : Path) : List Path :=
  if Path.hasParts program then [Path.absoluteFrom (pathOf directory) program]
  else searchPath.map fun place => Path.join place program

def lookup (tree : FileTree) (searchPath : List Path) (directory : Location) (program : Path) :
    Option Path :=
  (candidates searchPath directory program).find? (tree.isExecutable directory)

/-- A program whose name has one part is found in the first directory of the search path in which it
may be executed. -/
theorem lookup_eq_some_iff {tree : FileTree} {searchPath : List Path} {directory : Location}
    {program path : Path} (single : Path.hasParts program = false) :
    lookup tree searchPath directory program = some path ↔ ∃ front place back,
      searchPath = front ++ place :: back ∧ path = Path.join place program ∧
      tree.isExecutable directory path = true ∧
      ∀ earlier ∈ front, tree.isExecutable directory (Path.join earlier program) = false := by
  rw [lookup, candidates, single, if_neg Bool.false_ne_true, List.find?_eq_some_iff_append]
  constructor
  · rintro ⟨executable, before, after, places, notBefore⟩
    obtain ⟨front, rest, rfl, rfl, others⟩ := List.map_eq_append_iff.mp places
    obtain ⟨place, back, rfl, rfl, rfl⟩ := List.map_eq_cons_iff.mp others
    exact ⟨front, place, back, rfl, rfl, executable, by simpa using notBefore⟩
  · rintro ⟨front, place, back, rfl, rfl, executable, notBefore⟩
    exact ⟨executable, front.map (Path.join · program), back.map (Path.join · program),
      by simp, by simpa using notBefore⟩

end EditorBridge.Program
