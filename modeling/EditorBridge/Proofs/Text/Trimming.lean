import EditorBridge.Text.Trim
import Mathlib.Data.List.DropRight

/-!
# Trimmed texts

What trimming leaves neither starts nor ends in white space, and white space that is added at the
ends of a text does not change what is left of it.
-/
namespace EditorBridge.Text

open EditorBridge.Unicode

/-- To trim the end is to drop from the right. -/
theorem trimEnd_eq_rdropWhile (s : List Char) : trimEnd s = s.rdropWhile isWhiteSpace := by
  induction s with
  | nil => rfl
  | cons c rest ih =>
    have dropped : (c :: rest).rdropWhile isWhiteSpace =
        if rest.rdropWhile isWhiteSpace = [] then (if isWhiteSpace c then [] else [c])
        else c :: rest.rdropWhile isWhiteSpace := by
      simp only [List.rdropWhile, List.reverse_cons, List.dropWhile_append, List.isEmpty_iff,
        List.reverse_eq_nil_iff]
      split
      · by_cases white : isWhiteSpace c <;> simp [white]
      · simp
    rw [dropped, trimEnd, ih]
    cases rest.rdropWhile isWhiteSpace <;> rfl

/-- White space at the end does not count. -/
theorem trimEnd_append {s after : List Char} (white : after.all isWhiteSpace = true) :
    trimEnd (s ++ after) = trimEnd s := by
  rw [List.all_eq_true] at white
  rw [trimEnd_eq_rdropWhile, trimEnd_eq_rdropWhile]
  induction after using List.reverseRecOn with
  | nil => rw [List.append_nil]
  | append_singleton front c ih =>
    rw [← List.append_assoc, List.rdropWhile_concat_pos _ _ _ (white c (by simp))]
    exact ih fun d member => white d (List.mem_append_left _ member)

theorem trimEnd_eq_self_iff {s : List Char} :
    trimEnd s = s ↔ ∀ c ∈ s.getLast?, isWhiteSpace c = false := by
  rw [trimEnd_eq_rdropWhile, List.rdropWhile_eq_self_iff]
  constructor
  · intro last c member
    obtain ⟨ne_nil, rfl⟩ := List.mem_getLast?_eq_getLast member
    simpa using last ne_nil
  · intro last ne_nil
    simpa using last _ (List.getLast_mem_getLast? ne_nil)

theorem trimEnd_trimEnd (s : List Char) : trimEnd (trimEnd s) = trimEnd s := by
  rw [trimEnd_eq_rdropWhile, trimEnd_eq_rdropWhile, List.rdropWhile_idempotent]

theorem trimEnd_isPrefix (s : List Char) : trimEnd s <+: s := by
  rw [trimEnd_eq_rdropWhile]
  exact List.rdropWhile_prefix ..

theorem trimStart_append {before s : List Char} (white : before.all isWhiteSpace = true) :
    trimStart (before ++ s) = trimStart s := by
  rw [List.all_eq_true] at white
  exact List.dropWhile_append_of_pos white

theorem trimStart_eq_self_iff {s : List Char} :
    trimStart s = s ↔ ∀ c ∈ s.head?, isWhiteSpace c = false := by
  cases s with
  | nil => simp [trimStart]
  | cons c rest =>
    constructor
    · intro whole d member
      obtain rfl : c = d := by simpa using member
      by_contra white
      have short := (List.dropWhile_suffix isWhiteSpace (l := rest)).length_le
      rw [trimStart, List.dropWhile_cons_of_pos (by simpa using white)] at whole
      rw [whole, List.length_cons] at short
      omega
    · intro start
      exact List.dropWhile_cons_of_neg (by simp [start c rfl])

/-- White space at the ends does not count. -/
theorem trim_append (s : List Char) {before after : List Char}
    (leading : before.all isWhiteSpace = true) (trailing : after.all isWhiteSpace = true) :
    trim (before ++ s ++ after) = trim s := by
  rw [trim, List.append_assoc, trimStart_append leading, trim]
  simp only [trimStart, List.dropWhile_append]
  split
  · -- Nothing but white space is left once the front is gone.
    rename_i blank
    have rest : (after.dropWhile isWhiteSpace) = [] :=
      List.dropWhile_eq_nil_iff.mpr (List.all_eq_true.mp trailing)
    rw [List.isEmpty_iff.mp blank, rest]
  · exact trimEnd_append trailing

/-- What is left stays as it is. -/
theorem trim_trim (s : List Char) : trim (trim s) = trim s := by
  have start : trimStart (trim s) = trim s := by
    rw [trimStart_eq_self_iff]
    intro c member
    have kept : c ∈ (trimStart s).head? := by
      obtain ⟨more, split⟩ := trimEnd_isPrefix (trimStart s)
      rw [← split]
      exact List.mem_head?_append_of_mem_head? member
    exact trimStart_eq_self_iff.mp (List.dropWhile_idempotent ..) c kept
  rw [trim, start]
  exact trimEnd_trimEnd _

/-- A text stays as it is exactly if it neither starts nor ends in white space. -/
theorem trim_eq_self_iff {s : List Char} :
    trim s = s ↔ (∀ c ∈ s.head?, isWhiteSpace c = false) ∧
      ∀ c ∈ s.getLast?, isWhiteSpace c = false := by
  rw [← trimStart_eq_self_iff, ← trimEnd_eq_self_iff]
  constructor
  · intro whole
    have short : (trimEnd (trimStart s)).length = s.length := congrArg List.length whole
    have suffix : trimStart s <:+ s := List.dropWhile_suffix _
    have start : trimStart s = s := by
      refine suffix.eq_of_length_le ?_
      rw [← short]
      exact (trimEnd_isPrefix _).length_le
    rw [trim, start] at whole
    exact ⟨start, whole⟩
  · rintro ⟨start, stop⟩
    rw [trim, start, stop]

/-- Trimming leaves nothing of a text of white space only. -/
theorem trim_eq_nil_iff {s : List Char} : trim s = [] ↔ s.all isWhiteSpace = true := by
  have whole := congrArg (List.all · isWhiteSpace)
    (List.takeWhile_append_dropWhile (p := isWhiteSpace) (l := s))
  rw [List.all_append, List.all_takeWhile, Bool.true_and] at whole
  rw [trim, trimEnd_eq_nil_iff, trimStart, whole]

theorem isBlank_iff {s : String} : isBlank s = true ↔ trimmed s = "" := by
  rw [isBlank, ← trim_eq_nil_iff, trimmed, String.ofList_eq_empty_iff]

end EditorBridge.Text
