import EditorBridge.Config.Discovery
import EditorBridge.Proofs.Files.Ascent

/-!
# The search for a configuration file

The search ascends from its start.  It finds the configuration file of the nearest directory that
has one, unless the root of a repository lies below that directory (`search_finds_nearest`).
-/
namespace EditorBridge.Config

variable {tree : FileTree} {directory : Location} {start : Path}

/-- Whether a regular file stands where a directory has its configuration file. -/
def HasFile (tree : FileTree) (directory : Location) (path : Path) : Prop :=
  tree.isFile directory (path.join (Path.ofString ".dmypy-bridge.toml")) = true

/-- Whether a directory has an entry that marks the root of a repository. -/
def Marked (tree : FileTree) (directory : Location) (path : Path) : Prop :=
  ∃ marker ∈ [".git", ".hg", ".svn"],
    tree.pathExists directory (path.join (Path.ofString marker)) = true

/-- Whether a directory, so many steps above the start, has a configuration file while no directory
below it has one or is the root of a repository. -/
structure Nearest (tree : FileTree) (directory : Location) (start : Path) (height : Nat)
    (path : Path) : Prop where
  reached : start.ascend height = some path
  hasFile : HasFile tree directory path
  below : ∀ n < height, ∀ lower, start.ascend n = some lower →
    ¬ HasFile tree directory lower ∧ ¬ Marked tree directory lower

theorem isRepositoryRoot_iff {path : Path} :
    isRepositoryRoot tree directory path = true ↔ Marked tree directory path :=
  List.any_eq_true

/-- A search through a list of directories finds the file of the first one that has a file, unless
the root of a repository comes before it. -/
theorem searchIn_eq_some_iff {paths : List Path} {found : Path} :
    searchIn tree directory paths = some found ↔
      ∃ (n : Nat) (path : Path), paths[n]? = some path ∧ HasFile tree directory path ∧
        found = fileIn path ∧ ∀ m < n, ∀ lower : Path, paths[m]? = some lower →
          ¬ HasFile tree directory lower ∧ ¬ Marked tree directory lower := by
  induction paths with
  | nil => simp [searchIn]
  | cons first rest ih =>
    rw [searchIn]
    split
    · rename_i hasFile
      constructor
      · intro isFound
        exact ⟨0, first, rfl, hasFile, (Option.some.inj isFound).symm, fun m less => by omega⟩
      · rintro ⟨n, path, reached, _, rfl, below⟩
        cases n with
        | zero => rw [Option.some.inj reached]
        | succ n => exact absurd hasFile (below 0 (by omega) first rfl).1
    · rename_i noFile
      split
      · rename_i isRoot
        refine iff_of_false (by simp) ?_
        rintro ⟨n, path, reached, hasFile, rfl, below⟩
        cases n with
        | zero => exact noFile (Option.some.inj reached ▸ hasFile)
        | succ n => exact (below 0 (by omega) first rfl).2 (isRepositoryRoot_iff.mp isRoot)
      · rename_i notRoot
        rw [ih]
        constructor
        · rintro ⟨n, path, reached, hasFile, rfl, below⟩
          refine ⟨n + 1, path, reached, hasFile, rfl, fun m less lower isLower => ?_⟩
          cases m with
          | zero =>
            obtain rfl := Option.some.inj isLower
            exact ⟨noFile, fun marked => notRoot (isRepositoryRoot_iff.mpr marked)⟩
          | succ m => exact below m (by omega) lower isLower
        · rintro ⟨n, path, reached, hasFile, rfl, below⟩
          cases n with
          | zero => exact absurd (Option.some.inj reached ▸ hasFile) noFile
          | succ n =>
            exact ⟨n, path, reached, hasFile, rfl, fun m less => below (m + 1) (by omega)⟩

/-- A search finds the file of the nearest directory that has one. -/
theorem search_eq_some_iff {found : Path} :
    search tree directory start = some found ↔
      ∃ height path, Nearest tree directory start height path ∧ found = fileIn path := by
  rw [search, searchIn_eq_some_iff]
  simp only [← Path.ascend_eq_getElem?]
  constructor
  · rintro ⟨height, path, reached, hasFile, isFound, below⟩
    exact ⟨height, path, ⟨reached, hasFile, below⟩, isFound⟩
  · rintro ⟨height, path, ⟨reached, hasFile, below⟩, isFound⟩
    exact ⟨height, path, reached, hasFile, isFound, below⟩

/-- A directory without a file of its own that is not the root of a repository leaves the search to
its nearest parent. -/
theorem search_of_passed {parent : Path} (isParent : start.parent? = some parent)
    (noFile : ¬ HasFile tree directory start) (notMarked : ¬ Marked tree directory start) :
    search tree directory start = search tree directory parent := by
  have noFile : ¬ tree.isFile directory (fileIn start) = true := noFile
  have notRoot : ¬ isRepositoryRoot tree directory start = true :=
    fun isRoot => notMarked (isRepositoryRoot_iff.mp isRoot)
  rw [search, Path.ancestors, searchIn, if_neg noFile, if_neg notRoot,
    (Path.parents_of_parent? isParent).1, search, Path.ancestors]

/-- A directory is no regular file. -/
theorem not_hasFile_of_isDirectory {path : Path}
    (isDirectory : tree.isDirectory directory
      (path.join (Path.ofString ".dmypy-bridge.toml")) = true) :
    ¬ HasFile tree directory path := by
  unfold FileTree.isDirectory at isDirectory
  unfold HasFile FileTree.isFile
  split at isDirectory <;> simp_all

/-- The search ascends from its start, each step taking away the last part of the path, until it
reaches the root or the empty path.  It finds the configuration file of a directory on the way
exactly if that is the nearest one with such a file and no directory below it marks the root of a
repository.  So nothing above the root of a repository is found, and a directory that has the name
of the file does not end the search. -/
theorem search_finds_nearest (tree : FileTree) (directory : Location) (start : Path) :
    (∀ found, search tree directory start = some found ↔
      ∃ height path, Nearest tree directory start height path ∧
        found = path.join (Path.ofString ".dmypy-bridge.toml")) ∧
    (∀ n lower upper, start.ascend n = some lower → start.ascend (n + 1) = some upper →
      lower.Shortens upper) ∧
    (∃ n top, start.ascend n = some top ∧ start.ascend (n + 1) = none ∧ top.names = [] ∧
      top.isAbsolute = start.isAbsolute ∧ (start.isAbsolute = false → top = [])) ∧
    (∀ n root, start.ascend n = some root → Marked tree directory root →
      ∀ found, search tree directory start = some found →
        ∃ height ≤ n, ∃ path, start.ascend height = some path ∧
          found = path.join (Path.ofString ".dmypy-bridge.toml")) ∧
    (∀ parent, start.parent? = some parent → ¬ Marked tree directory start →
      tree.isDirectory directory (start.join (Path.ofString ".dmypy-bridge.toml")) = true →
      search tree directory start = search tree directory parent) := by
  refine ⟨fun found => search_eq_some_iff, fun n lower upper => Path.shortens_of_ascend,
    start.exists_top, ?_, ?_⟩
  · intro n root isRoot marked found isFound
    obtain ⟨height, path, nearest, rfl⟩ := search_eq_some_iff.mp isFound
    refine ⟨height, ?_, path, nearest.reached, rfl⟩
    by_contra above
    exact (nearest.below n (by omega) root isRoot).2 marked
  · intro parent isParent notMarked isDirectory
    exact search_of_passed isParent (not_hasFile_of_isDirectory isDirectory) notMarked

end EditorBridge.Config
