/-!
# Lines

A sequence is cut after each terminator, which stays with the piece before it.  There is no empty
last piece, so concatenating the pieces gives the sequence back, and only the last piece may lack
the terminator.
-/
namespace EditorBridge.Text

/-- Put an element in front of the first piece. -/
def prepend {α : Type} (a : α) : List (List α) → List (List α)
  | [] => [[a]]
  | piece :: rest => (a :: piece) :: rest

@[simp] theorem flatten_prepend {α : Type} (a : α) (pieces : List (List α)) :
    (prepend a pieces).flatten = a :: pieces.flatten := by
  cases pieces <;> rfl

/-- The pieces of a sequence, each ending in its terminator. -/
def cutAfter {α : Type} [DecidableEq α] (terminator : α) : List α → List (List α)
  | [] => []
  | a :: rest =>
      if a = terminator then [a] :: cutAfter terminator rest
      else prepend a (cutAfter terminator rest)

/-- Nothing is lost: the pieces concatenate to the sequence. -/
theorem flatten_cutAfter {α : Type} [DecidableEq α] (terminator : α) (s : List α) :
    (cutAfter terminator s).flatten = s := by
  induction s with
  | nil => rfl
  | cons a rest ih =>
    by_cases h : a = terminator <;> simp [cutAfter, h, ih]

section

variable {α : Type} {terminator : α} {s : List α}

/-- Whether every piece of a sequence has its terminator, so that whatever follows starts a piece
of its own. -/
def Terminated (terminator : α) (s : List α) : Prop := s = [] ∨ s.getLast? = some terminator

instance [DecidableEq α] (terminator : α) (s : List α) : Decidable (Terminated terminator s) :=
  inferInstanceAs (Decidable (_ ∨ _))

theorem Terminated.tail {a : α} (h : Terminated terminator (a :: s)) : Terminated terminator s := by
  cases s with
  | nil => exact .inl rfl
  | cons b rest => exact .inr (by simpa [Terminated] using h)

theorem terminated_append_iff (h : Terminated terminator s) (t : List α) :
    Terminated terminator (s ++ t) ↔ Terminated terminator t := by
  unfold Terminated at h ⊢
  cases t with
  | nil => simpa using h
  | cons b rest => simp [List.getLast?_append]

variable [DecidableEq α]

theorem cutAfter_ne_nil (h : s ≠ []) : cutAfter terminator s ≠ [] := by
  intro none
  have whole := flatten_cutAfter terminator s
  rw [none] at whole
  exact h whole.symm

/-- An element that is no terminator leaves its piece to the elements after it. -/
theorem exists_cutAfter_eq_cons {a : α} (h : Terminated terminator (a :: s))
    (inner : a ≠ terminator) : ∃ piece more, cutAfter terminator s = piece :: more := by
  refine List.exists_cons_of_ne_nil (cutAfter_ne_nil ?_)
  rintro rfl
  simp [Terminated, inner] at h

/-- The pieces of what follows come after the pieces before it. -/
theorem cutAfter_append (h : Terminated terminator s) (t : List α) :
    cutAfter terminator (s ++ t) = cutAfter terminator s ++ cutAfter terminator t := by
  induction s with
  | nil => rfl
  | cons a rest ih =>
    have ih := ih h.tail
    by_cases ha : a = terminator
    · simp [cutAfter, ha, ih]
    · obtain ⟨piece, more, pieces⟩ := exists_cutAfter_eq_cons h ha
      simp [cutAfter, ha, ih, pieces, prepend]

/-- A sequence has as many pieces as terminators. -/
theorem length_cutAfter (h : Terminated terminator s) :
    (cutAfter terminator s).length = s.count terminator := by
  induction s with
  | nil => rfl
  | cons a rest ih =>
    have ih := ih h.tail
    by_cases ha : a = terminator
    · simp [cutAfter, ha, ih]
    · obtain ⟨piece, more, pieces⟩ := exists_cutAfter_eq_cons h ha
      simp [cutAfter, ha, ← ih, pieces, prepend]

theorem getLast?_of_mem_cutAfter (h : Terminated terminator s) :
    ∀ piece ∈ cutAfter terminator s, piece.getLast? = some terminator := by
  induction s with
  | nil => simp [cutAfter]
  | cons a rest ih =>
    have ih := ih h.tail
    by_cases ha : a = terminator
    · simpa [cutAfter, ha] using ih
    · obtain ⟨piece, more, pieces⟩ := exists_cutAfter_eq_cons h ha
      rw [pieces, List.forall_mem_cons] at ih
      simpa [cutAfter, ha, pieces, prepend, List.getLast?_cons, ih.1] using ih.2

end

/-- A piece without its line feed, and without the one carriage return before it. -/
def withoutLineEnd (piece : List Char) : List Char :=
  match piece.reverse with
  | '\n' :: '\r' :: rest => rest.reverse
  | '\n' :: rest => rest.reverse
  | _ => piece

def lines (s : String) : List (List Char) := (cutAfter '\n' s.toList).map withoutLineEnd

end EditorBridge.Text
