import EditorBridge.Files.Tree
import Mathlib.Data.List.TakeWhile

/-!
# Parents of a path

The parents of a path come from its text, but they are meant as directories: to reach a path is to
reach its nearest parent and then to take one step (`Path.Under`).  This holds in every tree and
from every working directory, so a list of parents is a way down from the root or from the working
directory (`Path.Ladder`).
-/
namespace EditorBridge

open Host (SystemError)

namespace Path

theorem split_ne_nil (bytes : Bytes) : split bytes ≠ [] := by
  fun_cases split bytes <;> simp_all

theorem split_append_slash (a b : Bytes) : split (a ++ slash :: b) = split a ++ split b := by
  induction a with
  | nil => simp [split]
  | cons c rest ih =>
    by_cases h : c = slash
    · simp [split, h, ih]
    · obtain ⟨name, names, split_rest⟩ := List.exists_cons_of_ne_nil (split_ne_nil rest)
      simp [split, h, ih, split_rest]

theorem split_of_not_mem {name : Bytes} (h : slash ∉ name) : split name = [name] := by
  induction name with
  | nil => rfl
  | cons c rest ih =>
    have ⟨first, others⟩ : slash ≠ c ∧ slash ∉ rest := by simpa using h
    simp [split, Ne.symm first, ih others]

/-- No name has a slash in it. -/
theorem slash_not_mem_of_mem_split {bytes : Bytes} : ∀ name ∈ split bytes, slash ∉ name := by
  induction bytes with
  | nil => simp [split]
  | cons c rest ih =>
    obtain ⟨name, names, split_rest⟩ := List.exists_cons_of_ne_nil (split_ne_nil rest)
    rw [split_rest] at ih
    by_cases h : c = slash
    · simpa [split, h, split_rest] using ih
    · simpa [split, h, split_rest, Ne.symm h] using ih

theorem concat_append {a b : List Bytes} (ha : a ≠ []) (hb : b ≠ []) :
    concat (a ++ b) = concat a ++ slash :: concat b := by
  induction a with
  | nil => exact absurd rfl ha
  | cons name rest ih =>
    cases rest with
    | nil =>
      obtain ⟨first, more, rfl⟩ := List.exists_cons_of_ne_nil hb
      rfl
    | cons next more =>
      have joined := ih (by simp)
      simp only [List.cons_append, concat, List.append_assoc] at joined ⊢
      rw [joined]

theorem concat_isPrefix (a b : List Bytes) : concat a <+: concat (a ++ b) := by
  by_cases ha : a = []
  · subst ha
    exact List.nil_prefix
  by_cases hb : b = []
  · simp [hb]
  · rw [concat_append ha hb]
    exact List.prefix_append _ _

theorem split_concat {names : List Bytes} (ne_nil : names ≠ [])
    (plain : ∀ name ∈ names, slash ∉ name) : split (concat names) = names := by
  induction names with
  | nil => exact absurd rfl ne_nil
  | cons name rest ih =>
    have ⟨first, others⟩ := List.forall_mem_cons.mp plain
    cases rest with
    | nil => exact split_of_not_mem first
    | cons next more =>
      have later := ih (by simp) others
      simp only [concat, split_append_slash, split_of_not_mem first, later, List.singleton_append]

theorem start_append (path : Path) : (start path).1 ++ (start path).2 = path := by
  fun_cases start path <;> rfl

end Path

namespace FileTree

section

variable (tree : FileTree) (location : Location)

def follow (names : List Bytes) : Except SystemError Location := names.foldlM tree.step location

/-- The location that a path leads to, if the system accepts the text of the path. -/
def reach (directory : Location) (path : Path) : Except SystemError Location :=
  tree.follow (if Path.isAbsolute path then [] else directory) (Path.split path)

theorem follow_cons (name : Bytes) (rest : List Bytes) :
    tree.follow location (name :: rest) =
      tree.step location name >>= fun reached => tree.follow reached rest :=
  List.foldlM_cons

theorem follow_append (first second : List Bytes) :
    tree.follow location (first ++ second) =
      tree.follow location first >>= fun reached => tree.follow reached second :=
  List.foldlM_append

theorem follow_singleton (name : Bytes) : tree.follow location [name] = tree.step location name :=
  (follow_cons tree location name []).trans (bind_pure _)

/-- A name that does not count leads out of nothing but a directory, like any other name, and it
leads back there. -/
theorem step_idle_bind {idle : Bytes} (h : Path.isIdle idle = true) (name : Bytes) :
    (tree.step location idle >>= fun reached => tree.step reached name) =
      tree.step location name := by
  unfold step
  cases at_location : tree.entry? location with
  | none => rfl
  | some entry => cases entry <;> simp [h, bind, Except.bind, at_location]

/-- Names that do not count make no difference before another name. -/
theorem follow_idles {idles : List Bytes} (h : ∀ name ∈ idles, Path.isIdle name = true)
    (name : Bytes) : tree.follow location (idles ++ [name]) = tree.step location name := by
  induction idles generalizing location with
  | nil => exact follow_singleton tree location name
  | cons idle rest ih =>
    have ⟨first, others⟩ := List.forall_mem_cons.mp h
    have later : (fun reached => tree.follow reached (rest ++ [name])) =
        fun reached => tree.step reached name := funext fun reached => ih reached others
    rw [List.cons_append, follow_cons, later, step_idle_bind tree location first]

theorem follow_idle_cons {idle : Bytes} (h : Path.isIdle idle = true) (name : Bytes)
    (rest : List Bytes) :
    tree.follow location (idle :: name :: rest) = tree.follow location (name :: rest) := by
  have joined := step_idle_bind tree location h name
  simp only [follow_cons]
  rw [← bind_assoc, joined]

@[simp] theorem root_entry : tree.entry? [] = some .directory := if_pos rfl

/-- The root is where the path to it leads. -/
theorem reach_root (directory : Location) : tree.reach directory [Path.slash] = .ok [] := by
  have split : Path.split [Path.slash] = [[], []] := by decide
  have absolute : Path.isAbsolute [Path.slash] = true := by decide
  have still : tree.step [] [] = .ok [] := by simp [step, Path.isIdle]
  rw [reach, split, if_pos absolute, follow_idle_cons tree [] (by decide), follow_singleton, still]

end

end FileTree

namespace Path

/-- Whether a path is one step below another, in every tree and from every working directory.  The
empty path stands for the working directory.  The name of the step is one of a given path. -/
structure Under (whole path parent : Path) : Prop where
  ne_nil : path ≠ []
  isPrefix : parent <+: path
  reached : ∃ name ∈ split whole, ∀ (tree : FileTree) (directory : Location),
    tree.reach directory path =
      (if parent = [] then .ok directory else tree.reach directory parent) >>= fun location =>
        tree.step location name

/-- Paths that lead up to the working directory or to the root, step by step. -/
inductive Ladder (whole : Path) : List Path → Prop
  | workingDirectory : Ladder whole [[]]
  | root : Ladder whole [[slash]]
  | rung {path parent : Path} {rest : List Path} (under : Under whole path parent)
      (above : Ladder whole (parent :: rest)) : Ladder whole (path :: parent :: rest)

/-- What leads up from the front of a path is its front. -/
theorem Ladder.isPrefix {whole : Path} {paths : List Path} (ladder : Ladder whole paths)
    (front : ∀ path ∈ paths.head?, path <+: whole) : ∀ path ∈ paths, path <+: whole := by
  induction ladder with
  | workingDirectory => simp
  | root => simpa using front
  | rung under above ih =>
    have first := front _ rfl
    have others := ih (by simpa using under.isPrefix.trans first)
    exact List.forall_mem_cons.mpr ⟨first, others⟩

/-- The path of names that are given from the last to the first.  Those at its end that do not count
are left out. -/
def upTo (start : Bytes) (names : List Bytes) : Path :=
  start ++ concat (names.dropWhile isIdle).reverse

/-- Whether names, given from the last to the first, may follow the start of a path. -/
structure Fits (start : Bytes) (names : List Bytes) : Prop where
  plain : ∀ name ∈ names, slash ∉ name
  first : start = [slash] ∨ (start = dot ∧ ∀ name ∈ names.getLast?, name = []) ∨
    (start = [] ∧ ∀ name ∈ names.getLast?, name ≠ [])

theorem Fits.tail {start name : Bytes} {rest : List Bytes} (fits : Fits start (name :: rest)) :
    Fits start rest := by
  refine ⟨fun n member => fits.plain n (List.mem_cons_of_mem _ member), ?_⟩
  cases rest with
  | nil => simpa using fits.first.imp_right fun other => other.imp And.left And.left
  | cons next more => simpa [List.getLast?_cons_cons] using fits.first

theorem Fits.plain_kept {start : Bytes} {names : List Bytes} (fits : Fits start names) :
    ∀ name ∈ (names.dropWhile isIdle).reverse, slash ∉ name := fun name member =>
  fits.plain name ((List.dropWhile_suffix _).subset (List.mem_reverse.mp member))

/-- The first name is the same without those at the end that do not count. -/
theorem head?_kept {names : List Bytes} (counts : names.dropWhile isIdle ≠ []) :
    (names.dropWhile isIdle).reverse.head? = names.getLast? := by
  have whole := congrArg List.getLast? (List.takeWhile_append_dropWhile (p := isIdle) (l := names))
  rw [List.getLast?_append, List.getLast?_eq_some_getLast counts, Option.some_or] at whole
  rw [List.head?_reverse, List.getLast?_eq_some_getLast counts, whole]

/-- The last name that is kept counts. -/
theorem not_isIdle_of_head_kept {names : List Bytes} :
    ∀ name ∈ (names.dropWhile isIdle).head?, isIdle name = false := by
  intro name head
  have := List.head?_dropWhile_not isIdle names
  rw [Option.mem_def.mp head] at this
  simpa using this

/-- A path below the start leads where its names lead from there. -/
theorem reach_upTo {start : Bytes} {names : List Bytes} (fits : Fits start names)
    (counts : names.dropWhile isIdle ≠ []) (tree : FileTree) (directory : Location) :
    tree.reach directory (upTo start names) =
      tree.follow (if start = [slash] then [] else directory)
        (names.dropWhile isIdle).reverse := by
  have head := head?_kept counts
  have plain := fits.plain_kept
  have last : ∀ name ∈ (names.dropWhile isIdle).reverse.getLast?, isIdle name = false := by
    rw [List.getLast?_reverse]
    exact not_isIdle_of_head_kept
  have kept_ne_nil : (names.dropWhile isIdle).reverse ≠ [] := by simpa using counts
  unfold upTo
  generalize (names.dropWhile isIdle).reverse = kept at *
  obtain ⟨name, more, rfl⟩ := List.exists_cons_of_ne_nil kept_ne_nil
  have split_kept := split_concat kept_ne_nil plain
  have first := fits.first
  rw [← head, List.head?_cons] at first
  rcases first with rfl | ⟨rfl, first⟩ | ⟨rfl, first⟩
  · have absolute : isAbsolute ([slash] ++ concat (name :: more)) = true := by simp [isAbsolute]
    have cut : split ([slash] ++ concat (name :: more)) = [] :: name :: more :=
      (split_append_slash [] _).trans (congrArg ([] :: ·) split_kept)
    rw [FileTree.reach, if_pos absolute, cut, if_pos rfl, FileTree.follow_idle_cons _ _ (by decide)]
  · obtain rfl : name = [] := first name rfl
    -- Some name counts, so there is one after the empty name that stands before the first slash.
    obtain ⟨next, rest, rfl⟩ : ∃ next rest, more = next :: rest := by
      refine List.exists_cons_of_ne_nil fun none => ?_
      have := last [] (by rw [none]; rfl)
      simp [isIdle] at this
    have relative : isAbsolute (dot ++ concat ([] :: next :: rest)) = false := rfl
    have split_rest := split_concat (List.cons_ne_nil next rest) fun n member =>
      plain n (List.mem_cons_of_mem _ member)
    have cut : split (dot ++ concat ([] :: next :: rest)) = dot :: next :: rest :=
      (split_append_slash dot _).trans (congrArg (dot :: ·) split_rest)
    rw [FileTree.reach, if_neg (by simp [relative]), cut, if_neg (by decide),
      FileTree.follow_idle_cons _ _ (by decide), FileTree.follow_idle_cons _ _ (by decide)]
  · have relative : isAbsolute (concat (name :: more)) = false := by
      obtain ⟨c, cs, rfl⟩ := List.exists_cons_of_ne_nil (first name rfl)
      have other : c ≠ slash := fun same => plain _ (List.mem_cons_self ..) (by simp [same])
      cases more <;> simp [isAbsolute, concat, other]
    rw [List.nil_append, FileTree.reach, if_neg (by simp [relative]), split_kept,
      if_neg (by decide)]

/-- A path with a name that counts is not empty. -/
theorem upTo_ne_nil {start : Bytes} {names : List Bytes} (fits : Fits start names)
    (counts : names.dropWhile isIdle ≠ []) : upTo start names ≠ [] := by
  intro none
  have cut := split_concat (by simpa using counts) fits.plain_kept
  rw [(List.append_eq_nil_iff.mp none).2] at cut
  have alone : names.dropWhile isIdle = [[]] := by
    rw [← List.reverse_reverse (names.dropWhile isIdle), ← cut]
    rfl
  have empty : isIdle [] = false := by
    refine not_isIdle_of_head_kept [] (?_ : [] ∈ (names.dropWhile isIdle).head?)
    rw [alone]
    rfl
  simp [isIdle] at empty

/-- A path that ends in a name that counts is one step below the path without that name. -/
theorem under_upTo {whole start name : Bytes} {rest : List Bytes}
    (fits : Fits start (name :: rest)) (counts : isIdle name = false)
    (member : name ∈ split whole) :
    Under whole (upTo start (name :: rest)) (upTo start rest) := by
  have kept : (name :: rest).dropWhile isIdle = name :: rest :=
    List.dropWhile_cons_of_neg (by simp [counts])
  have kept_ne_nil : (name :: rest).dropWhile isIdle ≠ [] := by simp [kept]
  have ordered : (name :: rest).reverse =
      (rest.dropWhile isIdle).reverse ++ ((rest.takeWhile isIdle).reverse ++ [name]) := by
    rw [List.reverse_cons, ← List.append_assoc, ← List.reverse_append,
      List.takeWhile_append_dropWhile]
  refine ⟨upTo_ne_nil fits kept_ne_nil, ?_, name, member, fun tree directory => ?_⟩
  · unfold upTo
    rw [kept, ordered, List.prefix_append_right_inj]
    exact concat_isPrefix _ _
  have idles : ∀ n ∈ (rest.takeWhile isIdle).reverse, isIdle n = true := fun n idle =>
    List.mem_takeWhile_imp (List.mem_reverse.mp idle)
  have stepped (location : Location) :
      tree.follow location ((rest.takeWhile isIdle).reverse ++ [name]) =
        tree.step location name := tree.follow_idles location idles name
  rw [reach_upTo fits kept_ne_nil, kept, ordered, FileTree.follow_append]
  simp only [stepped]
  by_cases none : rest.dropWhile isIdle = []
  · have parent : upTo start rest = start := by simp [upTo, none, concat]
    rw [none, parent]
    rcases fits.first with rfl | ⟨rfl, _⟩ | ⟨rfl, _⟩
    · rw [if_pos rfl, if_neg (by decide), FileTree.reach_root]
      rfl
    · have itself : tree.reach directory dot = tree.step directory dot :=
        FileTree.follow_singleton tree directory dot
      rw [if_neg (by decide), if_neg (by decide), itself,
        tree.step_idle_bind directory (by decide)]
      rfl
    · rfl
  · rw [if_neg (upTo_ne_nil fits.tail none), reach_upTo fits.tail none]

/-- The parents that come from taking names away lead up step by step. -/
theorem ladder_parentsFrom {whole start : Bytes} {names : List Bytes} (fits : Fits start names)
    (members : ∀ name ∈ names, isIdle name = false → name ∈ split whole)
    (written : start = dot → dot ∈ split whole) :
    Ladder whole (upTo start names :: parentsFrom start names) := by
  induction names with
  | nil =>
    have parent : upTo start [] = start := by simp [upTo, concat]
    rw [parent]
    rcases fits.first with rfl | ⟨rfl, _⟩ | ⟨rfl, _⟩
    · exact .root
    · refine .rung ⟨by decide, List.nil_prefix, dot, written rfl, fun tree directory => ?_⟩
        .workingDirectory
      rw [if_pos rfl]
      exact FileTree.follow_singleton tree directory dot
    · exact .workingDirectory
  | cons name rest ih =>
    have above := ih fits.tail fun n member => members n (List.mem_cons_of_mem _ member)
    by_cases counts : isIdle name = true
    · have same : upTo start (name :: rest) = upTo start rest := by
        rw [upTo, List.dropWhile_cons_of_pos counts, upTo]
      rw [same, parentsFrom, if_pos counts]
      exact above
    · have counts : isIdle name = false := by simpa using counts
      rw [parentsFrom, counts, if_neg (by simp)]
      exact .rung (under_upTo fits counts (members name (List.mem_cons_self ..) counts)) above

/-- The names of a path fit its start. -/
theorem fits_start {path : Path} (ne_nil : path ≠ []) :
    Fits (start path).1 (split (start path).2).reverse := by
  refine ⟨fun name member => slash_not_mem_of_mem_split name (List.mem_reverse.mp member), ?_⟩
  rw [List.getLast?_reverse]
  fun_cases start path with
  | case1 rest => exact .inl rfl
  | case2 => exact .inr (.inl ⟨rfl, by simp [split]⟩)
  | case3 rest => exact .inr (.inl ⟨rfl, by simp [split]⟩)
  | case4 _ absolute =>
    refine .inr (.inr ⟨rfl, ?_⟩)
    obtain ⟨c, rest, rfl⟩ := List.exists_cons_of_ne_nil ne_nil
    have other : c ≠ slash := by
      rintro rfl
      exact absolute rest rfl
    obtain ⟨name, names, split_rest⟩ := List.exists_cons_of_ne_nil (split_ne_nil rest)
    simp [split, other, split_rest]

/-- The last name of a path stays the last without the start of the path. -/
theorem split_start_of_name (front : Bytes) {name : Bytes} (plain : slash ∉ name) :
    ∃ names, split (start (front ++ slash :: name)).2 = names ++ [name] := by
  have last (front : Bytes) : split (front ++ slash :: name) = split front ++ [name] := by
    rw [split_append_slash, split_of_not_mem plain]
  generalize whole : front ++ slash :: name = path
  fun_cases start path with
  | case1 rest =>
    cases front with
    | nil => exact ⟨[], by rw [← (List.cons.inj whole).2, split_of_not_mem plain]; rfl⟩
    | cons c front => exact ⟨_, by rw [← (List.cons.inj whole).2]; exact last front⟩
  | case2 =>
    cases front with
    | nil => exact absurd (List.cons.inj whole).1 (by decide)
    | cons c front => simp at whole
  | case3 rest =>
    cases front with
    | nil => exact absurd (List.cons.inj whole).1 (by decide)
    | cons c front => exact ⟨_, (congrArg split (List.cons.inj whole).2.symm).trans (last front)⟩
  | case4 => exact ⟨_, by rw [← whole]; exact last front⟩

/-- The names of a path that count are still there without its start. -/
theorem mem_split_of_start {path : Path} {name : Bytes} (counts : isIdle name = false)
    (member : name ∈ split (start path).2) : name ∈ split path := by
  have ne_nil : name ≠ [] := by
    rintro rfl
    simp [isIdle] at counts
  fun_cases start path with
  | case1 rest =>
    have cut : split (slash :: rest) = [] :: split rest := split_append_slash [] rest
    exact cut ▸ List.mem_cons_of_mem _ member
  | case2 => simp [start, split, ne_nil] at member
  | case3 rest =>
    have cut : split (0x2E :: slash :: rest) = dot :: split rest := split_append_slash dot rest
    have cut' : split (slash :: rest) = [] :: split rest := split_append_slash [] rest
    have below : name ∈ split (slash :: rest) := member
    rw [cut', List.mem_cons] at below
    exact cut ▸ List.mem_cons_of_mem _ (below.resolve_left ne_nil)
  | case4 => simpa [start] using member

theorem dot_mem_split {path : Path} (h : (start path).1 = dot) : dot ∈ split path := by
  fun_cases start path with
  | case1 rest => exact absurd (show [slash] = dot from h) (by decide)
  | case2 => decide
  | case3 rest =>
    have cut : split (0x2E :: slash :: rest) = dot :: split rest := split_append_slash dot rest
    exact cut ▸ List.mem_cons_self ..
  | case4 => simp_all [start, dot]

/-- A path that ends in a name is one step below its nearest parent, and from there its parents lead
up step by step. -/
theorem parents_of_name (front : Bytes) {name : Bytes} (plain : slash ∉ name)
    (counts : isIdle name = false) :
    ∃ parent rest, parents (front ++ slash :: name) = parent :: rest ∧
      Under (front ++ slash :: name) (front ++ slash :: name) parent ∧
      Ladder (front ++ slash :: name) (parent :: rest) := by
  have last : name ∈ split (front ++ slash :: name) := by
    rw [split_append_slash, split_of_not_mem plain]
    simp
  have ne_nil : front ++ slash :: name ≠ [] := by simp
  obtain ⟨names, ended⟩ := split_start_of_name front plain
  generalize front ++ slash :: name = path at *
  have fits := fits_start ne_nil
  have members : ∀ n ∈ names.reverse, isIdle n = false → n ∈ split path := fun n member counted =>
    mem_split_of_start counted (by rw [ended]; simp_all)
  have reversed : (split (start path).2).reverse = name :: names.reverse := by simp [ended]
  have itself : upTo (start path).1 (name :: names.reverse) = path := by
    have kept : (name :: names.reverse).dropWhile isIdle = name :: names.reverse :=
      List.dropWhile_cons_of_neg (by simp [counts])
    rw [upTo, kept, ← reversed, List.reverse_reverse, concat_split, start_append]
  rw [reversed] at fits
  have under := under_upTo fits counts last
  rw [itself] at under
  refine ⟨_, _, ?_, under, ladder_parentsFrom fits.tail members dot_mem_split⟩
  rw [parents, reversed, parentsFrom, counts, if_neg (by simp)]
  rfl

end Path

end EditorBridge
