import EditorBridge.Proofs.Files.Parents

/-!
# Making directories

A tree grows when entries come to it and none is lost; whatever a path leads to, it then still leads
to.  To make a directory with its parents is to let the tree grow by directories at those paths.  It
fails when the system does not accept the path, or when something that is no directory stands in the
way, and to try it again changes nothing, whether it had failed or not.
-/
namespace EditorBridge

open Host (SystemError)

/-- Whether the system does not accept the text of a path. -/
def Path.Refused (path : Path) : Prop :=
  0 ∈ path ∨ FileTree.pathLimit ≤ path.length ∨
    ∃ name ∈ Path.split path, FileTree.nameLimit < name.length

namespace FileTree

section

variable {tree : FileTree} {directory location : Location} {path : Path} {name : Bytes}

/-- A step leads out of nothing but a directory. -/
theorem directory_of_step_eq_ok {next : Location} (h : tree.step location name = .ok next) :
    tree.entry? location = some .directory := by
  unfold step at h
  split at h
  · cases h
  · cases h
  · assumption

/-- A step out of a directory fails only because its name is too long. -/
theorem exists_step_of_directory (h : tree.entry? location = some .directory)
    (short : name.length ≤ nameLimit) : ∃ next, tree.step location name = .ok next := by
  unfold step
  rw [h]
  simp only [Nat.not_lt.mpr short, if_false]
  split
  · exact ⟨_, rfl⟩
  · split <;> exact ⟨_, rfl⟩

/-- A step that fails finds nothing, or a file, or its name is too long. -/
theorem step_eq_error {error : SystemError} (h : tree.step location name = .error error)
    (short : name.length ≤ nameLimit) :
    (error = .noEntry ∧ tree.entry? location = none) ∨
      ∃ content executable, tree.entry? location = some (.file content executable) := by
  cases found : tree.entry? location with
  | none =>
    simp only [step, found] at h
    exact .inl ⟨(Except.error.inj h).symm, rfl⟩
  | some entry =>
    cases entry with
    | file content executable => exact .inr ⟨content, executable, rfl⟩
    | directory =>
      obtain ⟨next, ok⟩ := exists_step_of_directory found short
      rw [ok] at h
      cases h

theorem locate_eq_ok_iff :
    tree.locate directory path = .ok location ↔
      0 ∉ path ∧ path ≠ [] ∧ path.length < pathLimit ∧
        tree.reach directory path = .ok location := by
  unfold locate walk reach follow
  by_cases nul : 0 ∈ path
  · simp [nul]
  by_cases empty : path = []
  · simp [empty]
  by_cases long : pathLimit ≤ path.length
  · simp [nul, empty, long, Nat.not_lt.mpr long]
  · simp [nul, empty, long, Nat.lt_of_not_le long]

/-- The front of a path that is accepted is accepted too. -/
theorem locate_eq_reach {whole : Path} (accepted : ¬ whole.Refused) (front : path <+: whole)
    (ne_nil : path ≠ []) : tree.locate directory path = tree.reach directory path := by
  simp only [Path.Refused, not_or, Nat.not_le] at accepted
  have nul : path.contains 0 = false := by
    simpa using fun zero => accepted.1 (front.subset zero)
  have short : ¬ path.length ≥ pathLimit :=
    Nat.not_le.mpr (Nat.lt_of_le_of_lt front.length_le accepted.2.1)
  rw [locate, walk, nul, if_neg (by simp), if_neg ne_nil, if_neg short]
  rfl

theorem find_eq_ok_iff {entry : Entry} :
    tree.find directory path = .ok (location, entry) ↔
      tree.locate directory path = .ok location ∧ tree.entry? location = some entry := by
  unfold find
  cases located : tree.locate directory path with
  | error error => simp [bind, Except.bind]
  | ok reached =>
    cases found : tree.entry? reached with
    | none =>
      simp only [bind, Except.bind, found, throw, throwThe, MonadExceptOf.throw, Except.ok.injEq,
        reduceCtorEq, false_iff, not_and]
      rintro rfl
      simp [found]
    | some other =>
      simp only [bind, Except.bind, found, pure, Except.pure, Except.ok.injEq, Prod.mk.injEq]
      constructor
      · rintro ⟨rfl, rfl⟩
        exact ⟨rfl, found⟩
      · rintro ⟨rfl, same⟩
        rw [found] at same
        exact ⟨rfl, Option.some.inj same⟩

theorem pathExists_iff :
    tree.pathExists directory path = true ↔
      ∃ location entry, tree.locate directory path = .ok location ∧
        tree.entry? location = some entry := by
  simp only [← find_eq_ok_iff]
  unfold pathExists
  cases tree.find directory path with
  | error error => simp
  | ok found => exact ⟨fun _ => ⟨found.1, found.2, rfl⟩, fun _ => rfl⟩

theorem isDirectory_iff :
    tree.isDirectory directory path = true ↔
      ∃ location, tree.locate directory path = .ok location ∧
        tree.entry? location = some .directory := by
  simp only [← find_eq_ok_iff]
  unfold isDirectory
  split <;> simp_all

theorem isFile_iff :
    tree.isFile directory path = true ↔
      ∃ location content executable, tree.locate directory path = .ok location ∧
        tree.entry? location = some (.file content executable) := by
  simp only [← find_eq_ok_iff]
  unfold isFile
  split <;> simp_all

end

/-- Whether every entry of a tree is in another one, with the same content. -/
def Grows (tree tree' : FileTree) : Prop :=
  ∀ location entry, tree.entry? location = some entry → tree'.entry? location = some entry

theorem Grows.refl (tree : FileTree) : Grows tree tree := fun _ _ found => found

theorem Grows.trans {a b c : FileTree} (first : Grows a b) (second : Grows b c) : Grows a c :=
  fun location entry found => second location entry (first location entry found)

section

variable {tree tree' : FileTree} (grows : Grows tree tree') {directory location : Location}
  {path : Path}
include grows

theorem Grows.step {name : Bytes} {next : Location} (h : tree.step location name = .ok next) :
    tree'.step location name = .ok next := by
  have here := directory_of_step_eq_ok h
  unfold FileTree.step at h ⊢
  rw [here] at h
  rw [grows _ _ here]
  exact h

theorem Grows.follow {names : List Bytes} {reached : Location}
    (h : tree.follow location names = .ok reached) : tree'.follow location names = .ok reached := by
  induction names generalizing location with
  | nil => exact h
  | cons name rest ih =>
    rw [follow_cons] at h ⊢
    cases first : tree.step location name with
    | error error =>
      rw [first] at h
      cases h
    | ok next =>
      rw [first] at h
      rw [grows.step first]
      exact ih h

/-- Where a path leads, it still leads when the tree grows. -/
theorem Grows.locate (h : tree.locate directory path = .ok location) :
    tree'.locate directory path = .ok location := by
  rw [locate_eq_ok_iff] at h ⊢
  exact ⟨h.1, h.2.1, h.2.2.1, grows.follow h.2.2.2⟩

end

theorem lookup_filter_of_ne {entries : List (Location × Entry)} {location other : Location}
    (h : other ≠ location) :
    (entries.filter fun entry => entry.1 ≠ location).lookup other = entries.lookup other := by
  induction entries with
  | nil => rfl
  | cons entry rest ih =>
    obtain ⟨here, found⟩ := entry
    by_cases same : here = location
    · rw [List.filter_cons_of_neg (by simp [same]), ih, List.lookup_cons,
        beq_eq_false_iff_ne.mpr (same ▸ h)]
    · rw [List.filter_cons_of_pos (by simp [same]), List.lookup_cons, List.lookup_cons, ih]

theorem put_entry (tree : FileTree) {location : Location} (below : location ≠ []) (entry : Entry)
    (other : Location) :
    entry? (tree.put location entry) other =
      if other = location then some entry else tree.entry? other := by
  by_cases root : other = []
  · rw [root, root_entry, root_entry, if_neg (Ne.symm below)]
  · unfold entry?
    rw [if_neg root, if_neg root, put]
    by_cases same : other = location
    · simp [same]
    · rw [if_neg same, List.lookup_cons, beq_eq_false_iff_ne.mpr same]
      exact lookup_filter_of_ne same

/-- Where nothing is, a new entry takes no other's place. -/
theorem grows_put {tree : FileTree} {location : Location} (vacant : tree.entry? location = none)
    (entry : Entry) :
    Grows tree (tree.put location entry) ∧
      ∀ other, entry? (tree.put location entry) other =
        if other = location then some entry else tree.entry? other := by
  have below : location ≠ [] := by
    rintro rfl
    rw [root_entry] at vacant
    cases vacant
  refine ⟨fun other old found => ?_, put_entry tree below entry⟩
  have elsewhere : other ≠ location := by
    rintro rfl
    rw [vacant] at found
    cases found
  rw [put_entry tree below, if_neg elsewhere, found]

/-- What comes of making an entry: it is made where nothing is, or the tree stays as it is. -/
theorem create_cases (tree : FileTree) (entry : Entry) (located : Except SystemError Location) :
    (∃ location, located = .ok location ∧ tree.entry? location = none ∧
      tree.create entry located = (tree.put location entry, .ok ())) ∨
    (∃ location found, located = .ok location ∧ tree.entry? location = some found ∧
      tree.create entry located = (tree, .error .alreadyThere)) ∨
    ∃ error, located = .error error ∧ tree.create entry located = (tree, .error error) := by
  cases located with
  | error error => exact .inr (.inr ⟨error, rfl, rfl⟩)
  | ok location =>
    cases found : tree.entry? location with
    | none => exact .inl ⟨location, rfl, found, by simp [create, found]⟩
    | some other => exact .inr (.inl ⟨location, other, rfl, found, by simp [create, found]⟩)

/-- Whether a tree has grown by nothing but directories, and these where some paths lead. -/
structure Adds (directory : Location) (paths : List Path) (tree tree' : FileTree) : Prop where
  grows : Grows tree tree'
  added : ∀ location entry, tree'.entry? location = some entry →
    tree.entry? location = some entry ∨
      (entry = .directory ∧ ∃ path ∈ paths, tree'.locate directory path = .ok location)

theorem Adds.refl (directory : Location) (paths : List Path) (tree : FileTree) :
    Adds directory paths tree tree :=
  ⟨.refl tree, fun _ _ found => .inl found⟩

theorem Adds.trans {directory : Location} {first second paths : List Path} {a b c : FileTree}
    (begun : Adds directory first a b) (ended : Adds directory second b c)
    (among : ∀ path, path ∈ first ∨ path ∈ second → path ∈ paths) : Adds directory paths a c := by
  refine ⟨begun.grows.trans ended.grows, fun location entry found => ?_⟩
  rcases ended.added location entry found with earlier | ⟨rfl, path, member, located⟩
  · rcases begun.added location entry earlier with old | ⟨rfl, path, member, located⟩
    · exact .inl old
    · exact .inr ⟨rfl, path, among path (.inl member), ended.grows.locate located⟩
  · exact .inr ⟨rfl, path, among path (.inr member), located⟩

section

variable (tree : FileTree) (directory : Location) (path : Path)

theorem makeDirectory_cases :
    (∃ tree', tree.makeDirectory directory path = (tree', .ok ())) ∨
      ∃ error, tree.makeDirectory directory path = (tree, .error error) := by
  rcases create_cases tree .directory (tree.locate directory path) with
    ⟨_, _, _, made⟩ | ⟨_, _, _, _, failed⟩ | ⟨error, _, failed⟩
  · exact .inl ⟨_, made⟩
  · exact .inr ⟨_, failed⟩
  · exact .inr ⟨error, failed⟩

/-- Make a directory unless it is there. -/
def ensureDirectory : Changed :=
  match tree.makeDirectory directory path with
  | (tree, .ok ()) => (tree, .ok ())
  | (tree, .error error) =>
      (tree, if tree.isDirectory directory path then .ok () else .error error)

/-- What comes of making a directory unless it is there: afterwards it is there, or the tree is as
it was. -/
theorem ensureDirectory_cases :
    (∃ tree', tree.ensureDirectory directory path = (tree', .ok ()) ∧
      Adds directory [path] tree tree' ∧ tree'.isDirectory directory path = true) ∨
    ∃ error, tree.ensureDirectory directory path = (tree, .error error) ∧
      tree.makeDirectory directory path = (tree, .error error) ∧
      tree.isDirectory directory path = false := by
  unfold ensureDirectory makeDirectory
  rcases create_cases tree .directory (tree.locate directory path) with
    ⟨location, located, vacant, made⟩ | ⟨location, found, located, _, made⟩ | ⟨error, located, made⟩
  · obtain ⟨grows, entry_eq⟩ := grows_put vacant .directory
    have there : (tree.put location .directory).isDirectory directory path = true :=
      isDirectory_iff.mpr ⟨location, grows.locate located, by simp [entry_eq]⟩
    refine .inl ⟨_, by rw [made], ⟨grows, fun other entry found => ?_⟩, there⟩
    rw [entry_eq] at found
    split at found
    · rename_i same
      exact .inr ⟨(Option.some.inj found).symm, path, by simp, same ▸ grows.locate located⟩
    · exact .inl found
  all_goals
    rw [made]
    cases there : tree.isDirectory directory path with
    | true => exact .inl ⟨tree, by simp [there], .refl _ _ _, there⟩
    | false => exact .inr ⟨_, by simp [there], rfl, rfl⟩

/-- A directory is made at once, or, when something before it is missing, after its parents. -/
theorem makeDirectories_cons (ne_nil : path ≠ []) (parents : List Path) :
    tree.makeDirectories directory (path :: parents) =
      if (tree.makeDirectory directory path).2 = .error .noEntry then
        match tree.makeDirectories directory parents with
        | (tree, .ok ()) => tree.ensureDirectory directory path
        | failed => failed
      else tree.ensureDirectory directory path := by
  obtain ⟨c, rest, rfl⟩ := List.exists_cons_of_ne_nil ne_nil
  unfold ensureDirectory
  rcases makeDirectory_cases tree directory (c :: rest) with ⟨tree', made⟩ | ⟨error, failed⟩
  · simp [makeDirectories, made]
  · by_cases missing : error = .noEntry
    · subst missing
      rcases before : tree.makeDirectories directory parents with ⟨tree', result⟩
      cases result with
      | error _ => simp [makeDirectories, failed, before]
      | ok _ =>
        rcases again : tree'.makeDirectory directory (c :: rest) with ⟨tree'', result'⟩
        cases result' <;> simp [makeDirectories, failed, before, again]
    · simp only [makeDirectories, failed, missing, if_false, Except.error.injEq]

end

section

variable {tree tree' : FileTree} {directory : Location} {path : Path} {parents : List Path}

/-- What comes of making a directory with its parents: the parents are made before it, or they
cannot be made, or it does not need them. -/
theorem makeDirectories_cases {result : Except SystemError Unit} (ne_nil : path ≠ [])
    (h : tree.makeDirectories directory (path :: parents) = (tree', result)) :
    (∃ middle, tree.makeDirectories directory parents = (middle, .ok ()) ∧
      middle.ensureDirectory directory path = (tree', result)) ∨
    (∃ error, tree.makeDirectories directory parents = (tree', .error error) ∧
      result = .error error) ∨
    ((tree.makeDirectory directory path).2 ≠ .error .noEntry ∧
      tree.ensureDirectory directory path = (tree', result)) := by
  rw [makeDirectories_cons tree directory path ne_nil] at h
  split at h
  · rcases made : tree.makeDirectories directory parents with ⟨middle, outcome⟩
    rw [made] at h
    cases outcome with
    | ok _ => exact .inl ⟨middle, rfl, h⟩
    | error error =>
      obtain ⟨rfl, rfl⟩ := Prod.mk.inj h
      exact .inr (.inl ⟨error, rfl, rfl⟩)
  · exact .inr (.inr ⟨‹_›, h⟩)

/-- Where a directory is, none is made. -/
theorem makeDirectories_of_isDirectory (there : tree.isDirectory directory path = true)
    (parents : List Path) :
    tree.makeDirectories directory (path :: parents) = (tree, .ok ()) := by
  obtain ⟨location, located, found⟩ := isDirectory_iff.mp there
  have ne_nil : path ≠ [] := (locate_eq_ok_iff.mp located).2.1
  have occupied : tree.makeDirectory directory path = (tree, .error .alreadyThere) := by
    simp [makeDirectory, located, create, found]
  rw [makeDirectories_cons tree directory path ne_nil, occupied,
    if_neg fun missing => (by cases missing), ensureDirectory, occupied]
  simp [there]

theorem ensureDirectory_adds {result : Except SystemError Unit}
    (h : tree.ensureDirectory directory path = (tree', result)) :
    Adds directory [path] tree tree' := by
  rcases ensureDirectory_cases tree directory path with
    ⟨_, made, adds, _⟩ | ⟨error, failed, _⟩
  · rw [made] at h
    exact (Prod.mk.inj h).1 ▸ adds
  · rw [failed] at h
    exact (Prod.mk.inj h).1 ▸ .refl ..

theorem isDirectory_of_ensureDirectory
    (h : tree.ensureDirectory directory path = (tree', .ok ())) :
    tree'.isDirectory directory path = true := by
  rcases ensureDirectory_cases tree directory path with
    ⟨_, made, _, there⟩ | ⟨error, failed, _⟩
  · rw [made] at h
    exact (Prod.mk.inj h).1 ▸ there
  · rw [failed] at h
    cases h

/-- When a directory cannot be made, the tree stays as it is. -/
theorem ensureDirectory_eq_error {error : SystemError}
    (h : tree.ensureDirectory directory path = (tree', .error error)) :
    tree' = tree ∧ tree.makeDirectory directory path = (tree, .error error) ∧
      tree.isDirectory directory path = false := by
  rcases ensureDirectory_cases tree directory path with ⟨_, made, _⟩ | ⟨_, failed, refused, other⟩
  · rw [made] at h
    cases h
  · rw [failed] at h
    obtain ⟨rfl, same⟩ := Prod.mk.inj h
    exact ⟨rfl, Except.error.inj same ▸ refused, other⟩

/-- Directories are made with their parents, and nothing else. -/
theorem makeDirectories_adds {paths : List Path} {result : Except SystemError Unit}
    (h : tree.makeDirectories directory paths = (tree', result)) :
    Adds directory paths tree tree' := by
  induction paths generalizing tree' result with
  | nil =>
    obtain ⟨rfl, _⟩ := Prod.mk.inj h
    exact .refl ..
  | cons path parents ih =>
    by_cases top : path = []
    · subst top
      obtain ⟨rfl, _⟩ := Prod.mk.inj h
      exact .refl ..
    rcases makeDirectories_cases top h with
      ⟨middle, made, ensured⟩ | ⟨error, failed, _⟩ | ⟨_, ensured⟩
    · exact (ih made).trans (ensureDirectory_adds ensured) (by simp +contextual [or_comm])
    · exact (ih failed).trans (.refl directory [] tree') (by simp +contextual)
    · exact (ensureDirectory_adds ensured).trans (.refl directory [] tree') (by simp +contextual)

/-- When directories have been made, the first of them is there. -/
theorem isDirectory_of_makeDirectories (ne_nil : path ≠ [])
    (h : tree.makeDirectories directory (path :: parents) = (tree', .ok ())) :
    tree'.isDirectory directory path = true := by
  rcases makeDirectories_cases ne_nil h with ⟨_, _, ensured⟩ | ⟨_, _, failed⟩ | ⟨_, ensured⟩
  · exact isDirectory_of_ensureDirectory ensured
  · cases failed
  · exact isDirectory_of_ensureDirectory ensured

end

def standsFor (tree : FileTree) (directory : Location) (parent : Path) : Bool :=
  if parent = [] then tree.entry? directory = some .directory
  else tree.isDirectory directory parent

/-- Whether something that is no directory stands in the way of whatever is below a parent. -/
def isBlocked (tree : FileTree) (directory : Location) (parent : Path) : Bool :=
  if parent = [] then tree.entry? directory ≠ some .directory else tree.isFile directory parent

section

variable {tree : FileTree} {directory : Location} {whole path parent : Path}
  (under : Path.Under whole path parent)
include under

/-- A path leads nowhere unless its parent is there. -/
theorem standsFor_of_locate {location : Location}
    (h : tree.locate directory path = .ok location) : tree.standsFor directory parent = true := by
  obtain ⟨nul, ne_nil, short, reached⟩ := locate_eq_ok_iff.mp h
  obtain ⟨name, _, step_eq⟩ := under.reached
  rw [step_eq tree directory] at reached
  unfold standsFor
  by_cases top : parent = []
  · rw [if_pos top] at reached ⊢
    simpa using directory_of_step_eq_ok reached
  · rw [if_neg top] at reached ⊢
    cases below : tree.reach directory parent with
    | error error =>
      rw [below] at reached
      cases reached
    | ok middle =>
      rw [below] at reached
      have located : tree.locate directory parent = .ok middle :=
        locate_eq_ok_iff.mpr ⟨fun zero => nul (under.isPrefix.subset zero), top,
          Nat.lt_of_le_of_lt under.isPrefix.length_le short, below⟩
      exact isDirectory_iff.mpr ⟨middle, located, directory_of_step_eq_ok reached⟩

variable (accepted : ¬ whole.Refused) (front : path <+: whole)
include accepted front

/-- An accepted path leads somewhere once its parent is there. -/
theorem exists_locate_of_standsFor (h : tree.standsFor directory parent = true) :
    ∃ location, tree.locate directory path = .ok location := by
  obtain ⟨name, member, step_eq⟩ := under.reached
  have short : name.length ≤ nameLimit := by
    simp only [Path.Refused, not_or, not_exists, not_and, Nat.not_lt] at accepted
    exact accepted.2.2 name member
  rw [locate_eq_reach accepted front under.ne_nil, step_eq tree directory]
  unfold standsFor at h
  by_cases top : parent = []
  · rw [if_pos top] at h ⊢
    exact exists_step_of_directory (by simpa using h) short
  · rw [if_neg top] at h ⊢
    obtain ⟨middle, located, found⟩ := isDirectory_iff.mp h
    rw [(locate_eq_ok_iff.mp located).2.2.2]
    exact exists_step_of_directory found short

/-- An accepted path that leads nowhere has a parent that leads nowhere, or is missing, or is no
directory. -/
theorem locate_eq_error {error : SystemError} (h : tree.locate directory path = .error error) :
    (parent ≠ [] ∧ tree.locate directory parent = .error error) ∨ error = .noEntry ∨
      tree.isBlocked directory parent = true := by
  obtain ⟨name, member, step_eq⟩ := under.reached
  have short : name.length ≤ nameLimit := by
    simp only [Path.Refused, not_or, not_exists, not_and, Nat.not_lt] at accepted
    exact accepted.2.2 name member
  rw [locate_eq_reach accepted front under.ne_nil, step_eq tree directory] at h
  unfold isBlocked
  by_cases top : parent = []
  · rw [if_pos top] at h ⊢
    rcases step_eq_error h short with ⟨missing, _⟩ | ⟨content, executable, found⟩
    · exact .inr (.inl missing)
    · exact .inr (.inr (by simp [found]))
  · rw [if_neg top] at h ⊢
    have same : tree.locate directory parent = tree.reach directory parent :=
      locate_eq_reach accepted (under.isPrefix.trans front) top
    cases below : tree.reach directory parent with
    | error earlier =>
      rw [below] at h same
      exact .inl ⟨top, same.trans h⟩
    | ok middle =>
      rw [below] at h same
      rcases step_eq_error h short with ⟨missing, _⟩ | ⟨content, executable, found⟩
      · exact .inr (.inl missing)
      · exact .inr (.inr (isFile_iff.mpr ⟨middle, content, executable, same, found⟩))

end

section

variable {tree tree' : FileTree} {directory : Location} {whole path parent : Path}
  {paths : List Path} {error : SystemError}

theorem isDirectory_root (tree : FileTree) (directory : Location) :
    tree.isDirectory directory [Path.slash] = true :=
  isDirectory_iff.mpr ⟨[], locate_eq_ok_iff.mpr ⟨by decide, by decide, by decide, reach_root ..⟩,
    root_entry tree⟩

/-- Where a parent is there, nothing is made. -/
theorem makeDirectories_of_standsFor (h : tree.standsFor directory parent = true)
    (rest : List Path) : tree.makeDirectories directory (parent :: rest) = (tree, .ok ()) := by
  unfold standsFor at h
  split at h
  · rename_i top
    subst top
    rfl
  · exact makeDirectories_of_isDirectory h rest

/-- Where a path leads nowhere, no directory can be made. -/
theorem ensureDirectory_of_locate_eq_error
    (nowhere : tree.locate directory path = .error error) :
    tree.ensureDirectory directory path = (tree, .error error) := by
  have failed : tree.makeDirectory directory path = (tree, .error error) := by
    rw [makeDirectory, nowhere]
    rfl
  have absent : tree.isDirectory directory path = false := by
    rw [Bool.eq_false_iff, Ne, isDirectory_iff]
    rintro ⟨location, located, _⟩
    rw [nowhere] at located
    cases located
  rw [ensureDirectory, failed]
  simp [absent]

/-- Directories that have been made are not made again. -/
theorem makeDirectories_again_ok (made : tree.makeDirectories directory paths = (tree', .ok ())) :
    tree'.makeDirectories directory paths = (tree', .ok ()) := by
  cases paths with
  | nil => rfl
  | cons path parents =>
    by_cases top : path = []
    · subst top
      rfl
    · exact makeDirectories_of_isDirectory (isDirectory_of_makeDirectories top made) parents

/-- Directories that could not be made can still not be made, and those that were made on the way
are there already. -/
theorem makeDirectories_again_error (ladder : Path.Ladder whole paths)
    (failed : tree.makeDirectories directory paths = (tree', .error error)) :
    ∃ error', tree'.makeDirectories directory paths = (tree', .error error') := by
  induction ladder generalizing tree' error with
  | workingDirectory => cases failed
  | root =>
    rw [makeDirectories_of_isDirectory (isDirectory_root tree directory)] at failed
    cases failed
  | @rung path parent rest under above ih =>
    rcases makeDirectories_cases under.ne_nil failed with
      ⟨middle, made, ensured⟩ | ⟨_, parents, _⟩ | ⟨_, ensured⟩
    · obtain ⟨rfl, _⟩ := ensureDirectory_eq_error ensured
      rw [makeDirectories_cons tree' directory path under.ne_nil, makeDirectories_again_ok made]
      split <;> exact ⟨_, ensured⟩
    · obtain ⟨error', again⟩ := ih parents
      -- A parent that is there would not have failed, so the path leads nowhere.
      cases located : tree'.locate directory path with
      | ok location =>
        rw [makeDirectories_of_standsFor (standsFor_of_locate under located)] at again
        cases again
      | error _ =>
        rw [makeDirectories_cons tree' directory path under.ne_nil, again,
          ensureDirectory_of_locate_eq_error located]
        split <;> exact ⟨_, rfl⟩
    · obtain ⟨rfl, _⟩ := ensureDirectory_eq_error ensured
      exact ⟨error, failed⟩

/-- An accepted path below a ladder leads nowhere because something is missing, or because something
is in the way. -/
theorem isBlocked_of_locate_eq_error (ladder : Path.Ladder whole paths)
    (accepted : ¬ whole.Refused) (under : ∀ parent ∈ paths.head?, Path.Under whole path parent)
    (front : path <+: whole) (nowhere : tree.locate directory path = .error error) :
    error = .noEntry ∨ ∃ parent ∈ paths, tree.isBlocked directory parent = true := by
  induction ladder generalizing path with
  | workingDirectory =>
    rcases locate_eq_error (under [] rfl) accepted front nowhere with ⟨top, _⟩ | other
    · exact absurd rfl top
    · exact other.imp_right fun blocked => ⟨_, by simp, blocked⟩
  | root =>
    rcases locate_eq_error (under [Path.slash] rfl) accepted front nowhere with ⟨_, lost⟩ | other
    · obtain ⟨location, located, _⟩ := isDirectory_iff.mp (isDirectory_root tree directory)
      rw [located] at lost
      cases lost
    · exact other.imp_right fun blocked => ⟨_, by simp, blocked⟩
  | @rung parent next rest under' above ih =>
    have first := under parent rfl
    rcases locate_eq_error first accepted front nowhere with ⟨_, earlier⟩ | other
    · have later := ih (by simpa using under') (first.isPrefix.trans front) earlier
      exact later.imp_right fun ⟨blocked, member, h⟩ => ⟨blocked, List.mem_cons_of_mem _ member, h⟩
    · exact other.imp_right fun blocked => ⟨_, by simp, blocked⟩

/-- What is where a directory should be is in the way. -/
theorem isBlocked_of_occupied {location : Location} {found : Entry}
    (located : tree.locate directory path = .ok location)
    (occupied : tree.entry? location = some found)
    (other : tree.isDirectory directory path = false) : tree.isBlocked directory path = true := by
  have ne_nil : path ≠ [] := (locate_eq_ok_iff.mp located).2.1
  rw [isBlocked, if_neg ne_nil]
  cases found with
  | file content executable =>
    exact isFile_iff.mpr ⟨location, content, executable, located, occupied⟩
  | directory =>
    rw [isDirectory_iff.mpr ⟨location, located, occupied⟩] at other
    cases other

/-- A location at which no entry can be made is taken. -/
theorem occupied_of_create_eq_error {entry : Entry} {located : Except SystemError Location}
    {location : Location} (reached : located = .ok location)
    (failed : tree.create entry located = (tree, .error error)) :
    ∃ found, tree.entry? location = some found := by
  subst reached
  cases found : tree.entry? location with
  | some entry => exact ⟨entry, rfl⟩
  | none => simp [create, found] at failed

/-- When directories have been made, they are there, unless there is no working directory. -/
theorem standsFor_or_isBlocked_of_made {rest : List Path}
    (made : tree.makeDirectories directory (parent :: rest) = (tree', .ok ())) :
    tree'.standsFor directory parent = true ∨ tree'.isBlocked directory parent = true := by
  unfold standsFor isBlocked
  by_cases top : parent = []
  · rw [if_pos top, if_pos top, decide_eq_true_iff, decide_eq_true_iff]
    exact Decidable.em _
  · rw [if_neg top]
    exact .inl (isDirectory_of_makeDirectories top made)

/-- Directories below an accepted path cannot be made only when something is in the way. -/
theorem isBlocked_of_makeDirectories_eq_error (ladder : Path.Ladder whole paths)
    (accepted : ¬ whole.Refused) (front : ∀ path ∈ paths.head?, path <+: whole)
    (failed : tree.makeDirectories directory paths = (tree', .error error)) :
    ∃ path ∈ paths, tree'.isBlocked directory path = true := by
  induction ladder generalizing tree' error with
  | workingDirectory => cases failed
  | root =>
    rw [makeDirectories_of_isDirectory (isDirectory_root tree directory)] at failed
    cases failed
  | @rung path parent rest under above ih =>
    have front := front path rfl
    rcases makeDirectories_cases under.ne_nil failed with
      ⟨middle, made, ensured⟩ | ⟨_, parents, _⟩ | ⟨present, ensured⟩
    · obtain ⟨rfl, refused, other⟩ := ensureDirectory_eq_error ensured
      rcases standsFor_or_isBlocked_of_made made with there | blocked
      · obtain ⟨location, located⟩ := exists_locate_of_standsFor under accepted front there
        obtain ⟨found, occupied⟩ := occupied_of_create_eq_error located refused
        exact ⟨path, by simp, isBlocked_of_occupied located occupied other⟩
      · exact ⟨parent, by simp, blocked⟩
    · obtain ⟨blocked, member, h⟩ := ih (by simpa using under.isPrefix.trans front) parents
      exact ⟨blocked, List.mem_cons_of_mem _ member, h⟩
    · obtain ⟨rfl, refused, other⟩ := ensureDirectory_eq_error ensured
      cases located : tree'.locate directory path with
      | ok location =>
        obtain ⟨found, occupied⟩ := occupied_of_create_eq_error located refused
        exact ⟨path, by simp, isBlocked_of_occupied located occupied other⟩
      | error lost =>
        have missing : lost ≠ .noEntry := by
          rintro rfl
          rw [makeDirectory, located] at present
          exact present rfl
        rcases isBlocked_of_locate_eq_error above accepted (by simpa using under) front located with
          none | ⟨blocked, member, h⟩
        · exact absurd none missing
        · exact ⟨blocked, List.mem_cons_of_mem _ member, h⟩

end

end FileTree
end EditorBridge
