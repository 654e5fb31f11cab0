import EditorBridge.Proofs.Files.Parents

/-!
# Ascending from a path

To ascend from a path is to take its nearest parent again and again.  Each step takes the last part
of the path away (`parents_of_parent?`), where the root and a leading `.` are parts too.  So the
ascent ends, at the root or at the empty path (`exists_top`), and the paths on the way are the
ancestors of the path (`ascend_eq_getElem?`).
-/
namespace EditorBridge.Path

/-- The parts of a path: its start, if it has one, and the names that count. -/
def parts (path : Path) : List Bytes :=
  (if (start path).1 = [] then [] else [(start path).1]) ++ names path

/-- The path reached from another one by so many steps to the nearest parent. -/
def ascend (path : Path) : Nat → Option Path
  | 0 => some path
  | n + 1 => (ascend path n).bind parent?

/-- Whether names, given from the last to the first, are read off a path with a given start.  A
leading `.` belongs to the start. -/
structure Follows (start : Bytes) (names : List Bytes) : Prop extends Fits start names where
  undotted : start = [] → ∀ name ∈ names.getLast?, name ≠ dot

theorem Follows.tail {start name : Bytes} {rest : List Bytes}
    (follows : Follows start (name :: rest)) : Follows start rest := by
  refine ⟨follows.toFits.tail, fun relative first member => ?_⟩
  refine follows.undotted relative first ?_
  cases rest with
  | nil => cases member
  | cons next more => rwa [List.getLast?_cons_cons]

theorem follows_start {path : Path} (ne_nil : path ≠ []) :
    Follows (start path).1 (split (start path).2).reverse := by
  refine ⟨fits_start ne_nil, ?_⟩
  rw [List.getLast?_reverse]
  fun_cases start path with
  | case1 rest => exact fun relative => absurd relative (List.cons_ne_nil _ _)
  | case2 => exact fun relative => absurd relative (List.cons_ne_nil _ _)
  | case3 rest => exact fun relative => absurd relative (List.cons_ne_nil _ _)
  | case4 _ _ notDot notBelowDot =>
    rintro - name member rfl
    have whole := concat_split path
    cases cut : split path with
    | nil => exact split_ne_nil path cut
    | cons first more =>
      have isDot : first = dot := by simpa [start, cut] using member
      rw [cut, isDot] at whole
      cases more with
      | nil => exact notDot whole.symm
      | cons next more => exact notBelowDot _ whole.symm

/-- A relative path starts with a name unless that name is `.`. -/
theorem start_of_relative {path : Path} (relative : isAbsolute path = false) (notDot : path ≠ dot)
    (notBelowDot : ∀ rest, path ≠ dot ++ slash :: rest) : start path = ([], path) := by
  fun_cases start path with
  | case1 rest => exact absurd relative (by simp [isAbsolute, slash])
  | case2 => exact absurd rfl notDot
  | case3 rest => exact absurd rfl (notBelowDot rest)
  | case4 => rfl

/-- A path that is put together is read with the start and the names that it was made of, less those
at its end that do not count. -/
theorem start_upTo {beginning : Bytes} {names : List Bytes} (follows : Follows beginning names) :
    start (upTo beginning names) = (beginning, concat (names.dropWhile isIdle).reverse) := by
  have head (counts : names.dropWhile isIdle ≠ []) := head?_kept counts
  have plain := follows.plain_kept
  have undotted := follows.undotted
  have first := follows.first
  unfold upTo
  generalize kept_eq : (names.dropWhile isIdle).reverse = kept at *
  cases kept with
  | nil => rcases first with rfl | ⟨rfl, _⟩ | ⟨rfl, _⟩ <;> rfl
  | cons name more =>
    have isFirst : names.getLast? = some name := by
      rw [← head fun none => by simp [none] at kept_eq, List.head?_cons]
    rw [isFirst] at first undotted
    rcases first with rfl | ⟨rfl, first⟩ | ⟨rfl, first⟩
    · rfl
    · obtain rfl : name = [] := first name rfl
      cases more <;> rfl
    · have notSlash : slash ∉ name := plain name List.mem_cons_self
      have notDot : name ≠ dot := undotted rfl name rfl
      have cut := split_concat (List.cons_ne_nil name more) plain
      obtain ⟨c, cs, rfl⟩ := List.exists_cons_of_ne_nil (first name rfl)
      refine start_of_relative ?_ (fun same => ?_) fun rest same => ?_
      · have other : c ≠ slash := fun same => notSlash (by simp [same])
        cases more <;> simp [isAbsolute, concat, other]
      · rw [List.nil_append] at same
        rw [same] at cut
        exact notDot (List.cons.inj cut).1.symm
      · rw [List.nil_append] at same
        rw [same, split_append_slash] at cut
        exact notDot (List.cons.inj cut).1.symm

/-- The names of a path that is put together. -/
theorem names_upTo {beginning : Bytes} {names : List Bytes} (follows : Follows beginning names) :
    Path.names (upTo beginning names) = names.reverse.filter fun name => !isIdle name := by
  have dropped (names : List Bytes) : (names.dropWhile isIdle).filter (fun name => !isIdle name) =
      names.filter fun name => !isIdle name := by
    induction names with
    | nil => rfl
    | cons name rest ih =>
      by_cases idle : isIdle name = true
      · rw [List.dropWhile_cons_of_pos idle, ih, List.filter_cons_of_neg (by simp [idle])]
      · rw [List.dropWhile_cons_of_neg idle]
  rw [Path.names, start_upTo follows, List.filter_reverse, ← dropped names, ← List.filter_reverse]
  by_cases none : (names.dropWhile isIdle).reverse = []
  · rw [none]
    rfl
  · rw [split_concat none follows.plain_kept]

/-- The parents of a path that is put together are those that come from taking its names away. -/
theorem parents_upTo {beginning : Bytes} {names : List Bytes} (follows : Follows beginning names) :
    parents (upTo beginning names) = parentsFrom beginning names := by
  have dropped (names : List Bytes) :
      parentsFrom beginning (names.dropWhile isIdle) = parentsFrom beginning names := by
    induction names with
    | nil => rfl
    | cons name rest ih =>
      by_cases idle : isIdle name = true
      · rw [List.dropWhile_cons_of_pos idle, ih, parentsFrom, if_pos idle]
      · rw [List.dropWhile_cons_of_neg idle]
  rw [parents, start_upTo follows, ← dropped names]
  by_cases none : (names.dropWhile isIdle).reverse = []
  · rw [none, List.reverse_eq_nil_iff.mp none]
    rfl
  · rw [split_concat none follows.plain_kept, List.reverse_reverse]

theorem isAbsolute_iff_start {path : Path} :
    isAbsolute path = true ↔ (start path).1 = [slash] := by
  fun_cases start path with
  | case1 rest => simp [isAbsolute, slash]
  | case2 => decide
  | case3 rest => simp [isAbsolute, slash, dot]
  | case4 _ absolute =>
    refine iff_of_false (fun isAbsolute => ?_) (List.cons_ne_nil _ _).symm
    obtain ⟨rest, rfl⟩ := List.head?_eq_some_iff.mp (of_decide_eq_true isAbsolute)
    exact absolute rest rfl

/-- What it is to take the last part of a path away. -/
structure Shortens (path parent : Path) : Prop where
  isPrefix : parent <+: path
  parts_eq : ∃ last, parts path = parts parent ++ [last]
  isAbsolute_eq : isAbsolute parent = isAbsolute path

/-- The first parent that comes from taking names away has the others as its parents, and it lacks
the last part of the path that the names make. -/
theorem parents_of_parentsFrom {beginning : Bytes} {names : List Bytes} {parent : Path}
    {rest : List Path} (follows : Follows beginning names)
    (taken : parentsFrom beginning names = parent :: rest) :
    parents parent = rest ∧ Shortens (upTo beginning names) parent := by
  induction names with
  | nil =>
    rcases follows.first with rfl | ⟨rfl, _⟩ | ⟨rfl, _⟩
    · cases taken
    · obtain ⟨rfl, rfl⟩ := List.cons.inj taken
      exact ⟨rfl, List.nil_prefix, ⟨dot, rfl⟩, rfl⟩
    · cases taken
  | cons name more ih =>
    by_cases idle : isIdle name = true
    · have same : upTo beginning (name :: more) = upTo beginning more := by
        rw [upTo, List.dropWhile_cons_of_pos idle, upTo]
      rw [parentsFrom, if_pos idle] at taken
      rw [same]
      exact ih follows.tail taken
    · have counts : isIdle name = false := by simpa using idle
      rw [parentsFrom, if_neg idle] at taken
      obtain ⟨isParent, rfl⟩ := List.cons.inj taken
      obtain rfl : upTo beginning more = parent := isParent
      refine ⟨parents_upTo follows.tail, ?_, ⟨name, ?_⟩, ?_⟩
      · have alone : split name = [name] := split_of_not_mem (follows.plain name List.mem_cons_self)
        have under : Under name _ _ := under_upTo follows.toFits counts (by simp [alone])
        exact under.isPrefix
      · rw [parts, parts, names_upTo follows, names_upTo follows.tail, start_upTo follows,
          start_upTo follows.tail]
        simp [counts]
      · rw [Bool.eq_iff_iff, isAbsolute_iff_start, isAbsolute_iff_start, start_upTo follows,
          start_upTo follows.tail]

/-- A path without the names at its end that do not count has the same parts. -/
theorem shortens_of_upTo {path parent : Path} (ne_nil : path ≠ [])
    (shortens : Shortens (upTo (start path).1 (split (start path).2).reverse) parent) :
    Shortens path parent := by
  have follows := follows_start ne_nil
  have start_eq := congrArg Prod.fst (start_upTo follows)
  refine ⟨shortens.isPrefix.trans ?_, ?_, ?_⟩
  · conv => rhs; rw [← start_append path, ← concat_split (start path).2]
    rw [upTo, List.prefix_append_right_inj]
    have whole := List.takeWhile_append_dropWhile (p := isIdle)
      (l := (split (start path).2).reverse)
    have ordered := congrArg List.reverse whole
    rw [List.reverse_append, List.reverse_reverse] at ordered
    have front := concat_isPrefix ((split (start path).2).reverse.dropWhile isIdle).reverse
      ((split (start path).2).reverse.takeWhile isIdle).reverse
    rwa [ordered] at front
  · obtain ⟨last, parts_eq⟩ := shortens.parts_eq
    refine ⟨last, ?_⟩
    rw [← parts_eq, parts, parts, start_eq, names_upTo follows, List.reverse_reverse, Path.names]
  · rw [shortens.isAbsolute_eq, Bool.eq_iff_iff, isAbsolute_iff_start, isAbsolute_iff_start,
      start_eq]

/-- The parents of a path are its nearest parent and the parents of that. -/
theorem parents_of_cons {path parent : Path} {rest : List Path}
    (isParents : parents path = parent :: rest) :
    parents parent = rest ∧ Shortens path parent := by
  have ne_nil : path ≠ [] := by
    rintro rfl
    cases isParents
  obtain ⟨others, shortens⟩ := parents_of_parentsFrom (follows_start ne_nil) isParents
  exact ⟨others, shortens_of_upTo ne_nil shortens⟩

/-- No parent comes from taking names away only if none counts. -/
theorem idle_of_parentsFrom {beginning : Bytes} {names : List Bytes}
    (none : parentsFrom beginning names = []) :
    beginning ≠ dot ∧ ∀ name ∈ names, isIdle name = true := by
  induction names with
  | nil => exact ⟨fun isDot => by simp [parentsFrom, isDot] at none, by simp⟩
  | cons name more ih =>
    by_cases idle : isIdle name = true
    · rw [parentsFrom, if_pos idle] at none
      obtain ⟨notDot, others⟩ := ih none
      exact ⟨notDot, List.forall_mem_cons.mpr ⟨idle, others⟩⟩
    · rw [parentsFrom, if_neg idle] at none
      cases none

/-- Only a path without names has no parent, and a relative one only if it is empty. -/
theorem top_of_parents_eq_nil {path : Path} (none : parents path = []) :
    names path = [] ∧ (isAbsolute path = false → path = []) := by
  obtain ⟨notDot, idle⟩ := idle_of_parentsFrom none
  refine ⟨List.filter_eq_nil_iff.mpr fun name member => ?_, fun relative => ?_⟩
  · simp [idle name (List.mem_reverse.mpr member)]
  · by_contra ne_nil
    have follows := follows_start ne_nil
    rcases follows.first with absolute | ⟨isDot, _⟩ | ⟨isEmpty, first⟩
    · simp [isAbsolute_iff_start.mpr absolute] at relative
    · exact notDot isDot
    · -- The path starts with a name, and a first name counts.
      obtain ⟨name, isFirst⟩ : ∃ name, (split (start path).2).reverse.getLast? = some name := by
        rw [List.getLast?_reverse]
        obtain ⟨name, more, cut⟩ := List.exists_cons_of_ne_nil (split_ne_nil (start path).2)
        exact ⟨name, by rw [cut, List.head?_cons]⟩
      have counts := idle name (List.mem_of_getLast? isFirst)
      simp [isIdle, first name isFirst, follows.undotted isEmpty name isFirst] at counts

theorem parents_of_parent? {path parent : Path} (isParent : parent? path = some parent) :
    parents path = parent :: parents parent ∧ Shortens path parent := by
  obtain ⟨rest, cut⟩ := List.head?_eq_some_iff.mp isParent
  obtain ⟨others, shortens⟩ := parents_of_cons cut
  exact ⟨by rw [cut, others], shortens⟩

/-- To ascend by one step more is to ascend from the nearest parent. -/
theorem ascend_succ (path : Path) (n : Nat) :
    ascend path (n + 1) = (parent? path).bind fun parent => ascend parent n := by
  induction n with
  | zero => simp [ascend]
  | succ n ih => rw [ascend, ih, Option.bind_assoc]; rfl

/-- The paths on the way up are the ancestors of the path. -/
theorem ascend_eq_getElem? (path : Path) (n : Nat) : ascend path n = (ancestors path)[n]? := by
  induction n generalizing path with
  | zero => rfl
  | succ n ih =>
    rw [ascend_succ, ancestors, List.getElem?_cons_succ]
    cases isParent : parent? path with
    | none =>
      rw [List.head?_eq_none_iff.mp isParent]
      rfl
    | some parent =>
      rw [(parents_of_parent? isParent).1]
      exact ih parent

/-- Every step of an ascent takes the last part of a path away. -/
theorem shortens_of_ascend {path lower upper : Path} {n : Nat}
    (reached : ascend path n = some lower) (next : ascend path (n + 1) = some upper) :
    Shortens lower upper := by
  rw [ascend, reached, Option.bind_some] at next
  exact (parents_of_parent? next).2

/-- An ascent ends, at the empty path if the path is relative, and else at a path without names. -/
theorem exists_top (path : Path) :
    ∃ n top, ascend path n = some top ∧ ascend path (n + 1) = none ∧ names top = [] ∧
      isAbsolute top = isAbsolute path ∧ (isAbsolute path = false → top = []) := by
  induction length_eq : (parents path).length generalizing path with
  | zero =>
    have none := List.length_eq_zero_iff.mp length_eq
    obtain ⟨bare, relative⟩ := top_of_parents_eq_nil none
    refine ⟨0, path, rfl, ?_, bare, rfl, relative⟩
    rw [ascend_eq_getElem?, ancestors, none]
    rfl
  | succ m ih =>
    obtain ⟨parent, rest, cut⟩ := List.exists_cons_of_length_eq_add_one length_eq
    have isParent : parent? path = some parent := by rw [parent?, cut, List.head?_cons]
    obtain ⟨others, shortens⟩ := parents_of_cons cut
    obtain ⟨n, top, reached, ended, bare, absolute, relative⟩ := ih parent (by
      rw [others]
      simpa [cut] using length_eq)
    refine ⟨n + 1, top, ?_, ?_, bare, absolute.trans shortens.isAbsolute_eq, ?_⟩
    · rw [ascend_succ, isParent, Option.bind_some, reached]
    · rw [ascend_succ, isParent, Option.bind_some, ended]
    · rwa [← shortens.isAbsolute_eq]

end EditorBridge.Path
