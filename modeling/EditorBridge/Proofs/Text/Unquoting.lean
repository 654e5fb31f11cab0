import EditorBridge.Text.Lines
import EditorBridge.Text.Quoted
import EditorBridge.Text.Scan

/-!
# Reading quoted texts back

A reader that undoes the quoting of a list of texts.  An escape has two characters, or it names a
code point in hexadecimal between braces; a quote that no backslash stands before ends a text, and
after it either a comma, a space and the next text follow or the bracket that ends the list.
Whatever the texts contain, the reader finds them again (`readList?_quotedList`).
-/
namespace EditorBridge.Text

def meant? : Char → Option Char
  | '0' => some '\x00'
  | 't' => some '\t'
  | 'r' => some '\r'
  | 'n' => some '\n'
  | '"' => some '"'
  | '\\' => some '\\'
  | _ => none

mutual

/-- The texts of a list, read from within the first of them. -/
def textsFrom : List Char → Option (List (List Char))
  | [] => none
  | '"' :: rest => textsAfter rest
  | '\\' :: 'u' :: '{' :: rest => textsInEscape 0 rest
  | '\\' :: letter :: rest =>
      match meant? letter with
      | some c => (textsFrom rest).map (prepend c)
      | none => none
  | c :: rest => (textsFrom rest).map (prepend c)

/-- The texts of a list, read from within an escape in the first of them: a code point of which the
digits so far give a number. -/
def textsInEscape (n : Nat) : List Char → Option (List (List Char))
  | [] => none
  | '}' :: rest =>
      match scalar? n with
      | some c => (textsFrom rest).map (prepend c)
      | none => none
  | digit :: rest =>
      match hexDigit? digit with
      | some value => textsInEscape (n * 16 + value) rest
      | none => none

/-- The texts of a list, read from the end of the first of them, of which nothing is left. -/
def textsAfter : List Char → Option (List (List Char))
  | [']'] => some [[]]
  | ',' :: ' ' :: '"' :: rest => (textsFrom rest).map ([] :: ·)
  | _ => none

end

def texts? : List Char → Option (List (List Char))
  | ['[', ']'] => some []
  | '[' :: '"' :: rest => textsFrom rest
  | _ => none

def readList? (s : String) : Option (List String) := (texts? s.toList).map (·.map String.ofList)

theorem hexDigit?_digitChar : ∀ d < 16, hexDigit? (Nat.digitChar d) = some d := by decide

theorem digitChar_ne_brace : ∀ d < 16, Nat.digitChar d ≠ '}' := by decide

/-- One more digit of a code point. -/
theorem textsInEscape_digitChar (n : Nat) {d : Nat} (small : d < 16) (rest : List Char) :
    textsInEscape n (Nat.digitChar d :: rest) = textsInEscape (n * 16 + d) rest := by
  rw [textsInEscape, hexDigit?_digitChar d small]
  exact digitChar_ne_brace d small

/-- The digits of a code point give it. -/
theorem textsInEscape_hexadecimal (n : Nat) (rest : List Char) :
    textsInEscape 0 (hexadecimal n ++ rest) = textsInEscape n rest := by
  induction n using Nat.strongRecOn generalizing rest with
  | _ n ih =>
    have last : n % 16 < 16 := Nat.mod_lt n (by decide)
    rw [hexadecimal, Nat.toDigits_eq_if (by decide)]
    split
    · rename_i small
      rw [List.singleton_append, textsInEscape_digitChar 0 small, Nat.zero_mul, Nat.zero_add]
    · have front := ih (n / 16) (by omega) (Nat.digitChar (n % 16) :: rest)
      rw [hexadecimal] at front
      rw [List.append_assoc, List.singleton_append, front, textsInEscape_digitChar _ last,
        Nat.div_add_mod' n 16]

theorem scalar?_toNat (c : Char) : scalar? c.toNat = some c := by
  have valid : c.toNat.isValidChar := c.valid
  rw [scalar?, if_pos valid, Char.ofNat_toNat]

theorem textsFrom_codePointEscape (c : Char) (rest : List Char) :
    textsFrom (codePointEscape c ++ rest) = (textsFrom rest).map (prepend c) := by
  have spelled : codePointEscape c ++ rest =
      '\\' :: 'u' :: '{' :: (hexadecimal c.toNat ++ '}' :: rest) := by
    simp [codePointEscape]
  rw [spelled, textsFrom, textsInEscape_hexadecimal, textsInEscape, scalar?_toNat]

/-- A letter with a meaning after a backslash. -/
theorem textsFrom_letter {letter c : Char} (means : meant? letter = some c) (rest : List Char) :
    textsFrom ('\\' :: letter :: rest) = (textsFrom rest).map (prepend c) := by
  rw [textsFrom, means]
  rintro more rfl
  cases means

/-- A character is read as it was written, and reading goes on behind it. -/
theorem textsFrom_escape (c : Char) (rest : List Char) :
    textsFrom (escape c ++ rest) = (textsFrom rest).map (prepend c) := by
  unfold escape
  split
  case h_7 notNul notTab notReturn notFeed notQuote notBackslash =>
    split
    · rw [List.singleton_append]
      exact textsFrom.eq_5 c rest notQuote (fun _ same => absurd same notBackslash)
        fun _ _ same => absurd same notBackslash
    · exact textsFrom_codePointEscape c rest
  all_goals exact textsFrom_letter rfl rest

/-- A text is read to its closing quote. -/
theorem textsFrom_text (s : List Char) {rest : List Char} {more : List (List Char)}
    (read : textsAfter rest = some ([] :: more)) :
    textsFrom (s.flatMap escape ++ '"' :: rest) = some (s :: more) := by
  induction s with
  | nil => exact read
  | cons c s ih =>
    rw [List.flatMap_cons, List.append_assoc, textsFrom_escape, ih]
    rfl

/-- A list that is not empty starts with a quote, behind which all its texts are read. -/
theorem textsFrom_quotes (s : List Char) (more : List (List Char)) :
    ∃ body, (((s :: more).map quote).intersperse [',', ' ']).flatten ++ [']'] = '"' :: body ∧
      textsFrom body = some (s :: more) := by
  induction more generalizing s with
  | nil =>
    refine ⟨s.flatMap escape ++ '"' :: [']'], ?_, textsFrom_text s rfl⟩
    simp [quote]
  | cons next more ih =>
    obtain ⟨body, spelled, read⟩ := ih next
    have after : textsAfter (',' :: ' ' :: '"' :: body) = some ([] :: next :: more) := by
      rw [textsAfter, read]
      rfl
    refine ⟨s.flatMap escape ++ '"' :: (',' :: ' ' :: '"' :: body), ?_, textsFrom_text s after⟩
    rw [← spelled]
    simp [quote]

/-- A list of texts is read back from its brackets. -/
theorem texts?_bracketed (texts : List (List Char)) :
    texts? (bracketed (texts.map quote)) = some texts := by
  cases texts with
  | nil => rfl
  | cons s more =>
    obtain ⟨body, spelled, read⟩ := textsFrom_quotes s more
    rw [bracketed, List.cons_append, spelled, texts?, read]

/-- The texts of a quoted list are found again, whatever their characters. -/
theorem readList?_quotedList (items : List String) : readList? (quotedList items) = some items := by
  have chars : items.map (fun s => quote s.toList) = (items.map String.toList).map quote := by
    rw [List.map_map]
    rfl
  rw [readList?, quotedList, String.toList_ofList, chars, texts?_bracketed]
  simp [Function.comp_def]

end EditorBridge.Text
