import EditorBridge.Unicode.WhiteSpace

/-!
# Trimming

White space at the ends of a text is removed on lists of characters; the functions on strings are
read off from those.
-/
namespace EditorBridge.Text

open EditorBridge.Unicode

/-- A text without the white space it starts with. -/
def trimStart (s : List Char) : List Char := s.dropWhile isWhiteSpace

/-- A text without the white space it ends in. -/
def trimEnd : List Char → List Char
  | [] => []
  | c :: rest =>
      match trimEnd rest with
      | [] => if isWhiteSpace c then [] else [c]
      | kept => c :: kept

/-- A text without white space at its ends. -/
def trim (s : List Char) : List Char := trimEnd (trimStart s)

/-- A text without white space at its ends. -/
def trimmed (s : String) : String := String.ofList (trim s.toList)

/-- A text of white space only. -/
def isBlank (s : String) : Bool := s.toList.all isWhiteSpace

theorem trimEnd_eq_nil_iff {s : List Char} : trimEnd s = [] ↔ s.all isWhiteSpace = true := by
  induction s with
  | nil => simp [trimEnd]
  | cons c rest ih =>
    cases h : trimEnd rest with
    | nil =>
      have := ih.1 h
      by_cases hc : isWhiteSpace c <;> simp_all [trimEnd]
    | cons d ds =>
      have hne : ¬ rest.all isWhiteSpace = true := fun hall => by simp [ih.2 hall] at h
      simp only [trimEnd, h, List.all_cons, Bool.and_eq_true]
      exact ⟨fun h' => by simp at h', fun h' => absurd h'.2 hne⟩

end EditorBridge.Text
