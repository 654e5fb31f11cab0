import EditorBridge.Text.Scan
import EditorBridge.Unicode.DecimalDigit

/-!
# TOML tokens

The tokens of TOML 1.1, with the escapes that it has added to quoted texts.

A text is cut into marks, white space, line ends, quoted texts and words.  A word is everything
between those: a bare key, dots included, or a value that is not quoted.  A date and a time of day
with one space between them are one word.  A comment counts as white space.
-/
namespace EditorBridge.Toml

open EditorBridge.Text EditorBridge.Unicode

inductive Token where
  | equals
  | comma
  | openBracket
  | closeBracket
  | openBrace
  | closeBrace
  | space
  | lineEnd
  /-- A quoted text; texts over several lines have marks of three quotes. -/
  | quoted (text : List Char) (severalLines : Bool)
  | word (text : List Char)
  deriving DecidableEq, Repr

namespace Token

def isSpace (c : Char) : Bool := c = ' ' || c = '\t'

/-- Characters that no comment and no quoted text has: control characters other than the tab. -/
def isForbidden (c : Char) : Bool := (c.toNat < 0x20 && c ≠ '\t') || c.toNat = 0x7F

def simpleEscape? : Char → Option Char
  | '"' => some '"'
  | '\\' => some '\\'
  | 'b' => some '\x08'
  | 'e' => some '\x1b'
  | 'f' => some '\x0c'
  | 'n' => some '\n'
  | 'r' => some '\r'
  | 't' => some '\t'
  | _ => none

def codePoint? (digits : List Char) : Option Char := hexValue? digits >>= scalar?

/-- A text on one line, after its opening quote, with escapes. -/
def basic : List Char → Scan
  | [] => none
  | '"' :: rest => some ([], rest)
  | '\\' :: 'x' :: a :: b :: rest =>
      match codePoint? [a, b] with
      | some ch => (basic rest).cons ch
      | none => none
  | '\\' :: 'u' :: a :: b :: c :: d :: rest =>
      match codePoint? [a, b, c, d] with
      | some ch => (basic rest).cons ch
      | none => none
  | '\\' :: 'U' :: a :: b :: c :: d :: e :: f :: g :: h :: rest =>
      match codePoint? [a, b, c, d, e, f, g, h] with
      | some ch => (basic rest).cons ch
      | none => none
  | '\\' :: e :: rest =>
      match simpleEscape? e with
      | some ch => (basic rest).cons ch
      | none => none
  | c :: rest => if isForbidden c then none else (basic rest).cons c

/-- A text on one line, after its opening apostrophe, without escapes. -/
def literal : List Char → Scan
  | [] => none
  | '\'' :: rest => some ([], rest)
  | c :: rest => if isForbidden c then none else (literal rest).cons c

/-- Whether a backslash here takes away the line end: only spaces come before that. -/
def endsLine (s : List Char) : Bool :=
  match s.dropWhile isSpace with
  | '\n' :: _ => true
  | '\r' :: '\n' :: _ => true
  | _ => false

/-- A text over several lines, after its opening quotes, with escapes.  Up to two quotes may stand
before the closing three.  A backslash at the end of a line takes away the line end and the white
space after it; `skipping` tells that this is going on.  Other line ends stay as they are written.
-/
def basicLines : Bool → List Char → Scan
  | _, [] => none
  | true, ' ' :: rest => basicLines true rest
  | true, '\t' :: rest => basicLines true rest
  | true, '\n' :: rest => basicLines true rest
  | true, '\r' :: '\n' :: rest => basicLines true rest
  | _, '"' :: '"' :: '"' :: '"' :: '"' :: rest => some (['"', '"'], rest)
  | _, '"' :: '"' :: '"' :: '"' :: rest => some (['"'], rest)
  | _, '"' :: '"' :: '"' :: rest => some ([], rest)
  | _, '\r' :: '\n' :: rest => ((basicLines false rest).cons '\n').cons '\r'
  | _, '\n' :: rest => (basicLines false rest).cons '\n'
  | _, '\\' :: 'x' :: a :: b :: rest =>
      match codePoint? [a, b] with
      | some ch => (basicLines false rest).cons ch
      | none => none
  | _, '\\' :: 'u' :: a :: b :: c :: d :: rest =>
      match codePoint? [a, b, c, d] with
      | some ch => (basicLines false rest).cons ch
      | none => none
  | _, '\\' :: 'U' :: a :: b :: c :: d :: e :: f :: g :: h :: rest =>
      match codePoint? [a, b, c, d, e, f, g, h] with
      | some ch => (basicLines false rest).cons ch
      | none => none
  | _, '\\' :: e :: rest =>
      match simpleEscape? e with
      | some ch => (basicLines false rest).cons ch
      | none => if endsLine (e :: rest) then basicLines true (e :: rest) else none
  | _, c :: rest => if isForbidden c then none else (basicLines false rest).cons c

/-- A text over several lines, after its opening apostrophes, without escapes. -/
def literalLines : List Char → Scan
  | [] => none
  | '\'' :: '\'' :: '\'' :: '\'' :: '\'' :: rest => some (['\'', '\''], rest)
  | '\'' :: '\'' :: '\'' :: '\'' :: rest => some (['\''], rest)
  | '\'' :: '\'' :: '\'' :: rest => some ([], rest)
  | '\r' :: '\n' :: rest => ((literalLines rest).cons '\n').cons '\r'
  | '\n' :: rest => (literalLines rest).cons '\n'
  | c :: rest => if isForbidden c then none else (literalLines rest).cons c

theorem within_basic (s : List Char) : (basic s).Within s.length := by
  fun_induction basic s <;>
    first
    | exact Scan.within_none _
    | exact Scan.within_some (by simp)
    | exact Scan.Within.cons (by assumption) (by simp only [List.length_cons]; omega)

theorem within_literal (s : List Char) : (literal s).Within s.length := by
  fun_induction literal s <;>
    first
    | exact Scan.within_none _
    | exact Scan.within_some (by simp)
    | exact Scan.Within.cons (by assumption) (by simp only [List.length_cons]; omega)

theorem within_basicLines (skipping : Bool) (s : List Char) :
    (basicLines skipping s).Within s.length := by
  fun_induction basicLines skipping s <;>
    first
    | exact Scan.within_none _
    | exact Scan.within_some (by simp only [List.length_cons]; omega)
    | exact Scan.Within.cons (Scan.Within.cons (by assumption) (Nat.le_refl _))
        (by simp only [List.length_cons]; omega)
    | exact Scan.Within.cons (by assumption) (by simp only [List.length_cons]; omega)
    | exact Scan.Within.mono (by assumption) (by simp only [List.length_cons]; omega)

theorem within_literalLines (s : List Char) : (literalLines s).Within s.length := by
  fun_induction literalLines s <;>
    first
    | exact Scan.within_none _
    | exact Scan.within_some (by simp only [List.length_cons]; omega)
    | exact Scan.Within.cons (Scan.Within.cons (by assumption) (Nat.le_refl _))
        (by simp only [List.length_cons]; omega)
    | exact Scan.Within.cons (by assumption) (by simp only [List.length_cons]; omega)

/-- A line end right after the opening marks does not belong to the text. -/
def withoutFirstLineEnd : List Char → List Char
  | '\n' :: rest => rest
  | '\r' :: '\n' :: rest => rest
  | s => s

theorem length_withoutFirstLineEnd (s : List Char) : (withoutFirstLineEnd s).length ≤ s.length := by
  unfold withoutFirstLineEnd
  split
  · simp
  · simp only [List.length_cons]; omega
  · exact Nat.le_refl _

def mark? : Char → Option Token
  | '=' => some equals
  | ',' => some comma
  | '[' => some openBracket
  | ']' => some closeBracket
  | '{' => some openBrace
  | '}' => some closeBrace
  | ' ' | '\t' => some space
  | '\n' => some lineEnd
  | _ => none

def isWordCharacter (c : Char) : Bool :=
  (mark? c).isNone && c ≠ '\r' && c ≠ '#' && c ≠ '"' && c ≠ '\''

def isDigit (c : Char) : Bool := (asciiDigit? c).isSome

def isDate : List Char → Bool
  | [a, b, c, d, '-', e, f, '-', g, h] => [a, b, c, d, e, f, g, h].all isDigit
  | _ => false

/-- A quoted text, after its opening mark, and what follows it. -/
def quotedText (severalLines : Bool) (scan : Scan) : Option (Token × List Char) :=
  scan.map fun (text, rest) => (quoted text severalLines, rest)

def afterComment (s : List Char) : Option (Token × List Char) :=
  let comment := s.takeWhile (· ≠ '\n')
  let rest := s.dropWhile (· ≠ '\n')
  let comment := if rest.isEmpty || comment.getLast? ≠ some '\r' then comment else comment.dropLast
  if comment.any isForbidden then none else some (space, rest)

def wordFrom (s : List Char) : List Char × List Char :=
  let word := s.takeWhile isWordCharacter
  match isDate word, s.dropWhile isWordCharacter with
  | true, ' ' :: c :: rest =>
      if isDigit c then (word ++ ' ' :: (c :: rest).takeWhile isWordCharacter,
        (c :: rest).dropWhile isWordCharacter)
      else (word, ' ' :: c :: rest)
  | _, rest => (word, rest)

/-- The first token of a text, and what follows it. -/
def next? : List Char → Option (Token × List Char)
  | [] => none
  | '\r' :: '\n' :: rest => some (lineEnd, rest)
  | '#' :: rest => afterComment rest
  | '"' :: '"' :: '"' :: rest => quotedText true (basicLines false (withoutFirstLineEnd rest))
  | '\'' :: '\'' :: '\'' :: rest => quotedText true (literalLines (withoutFirstLineEnd rest))
  | '"' :: rest => quotedText false (basic rest)
  | '\'' :: rest => quotedText false (literal rest)
  | c :: rest =>
      match mark? c with
      | some mark => some (mark, rest)
      | none =>
          if isWordCharacter c then
            let found := wordFrom (c :: rest)
            some (word found.1, found.2)
          else none

theorem length_dropWhile_le {α : Type} (p : α → Bool) (s : List α) :
    (s.dropWhile p).length ≤ s.length := (List.dropWhile_suffix p).length_le

theorem length_wordFrom {c : Char} (rest : List Char) (hc : isWordCharacter c = true) :
    (wordFrom (c :: rest)).2.length < (c :: rest).length := by
  have hdrop : ((c :: rest).dropWhile isWordCharacter).length < (c :: rest).length := by
    rw [List.dropWhile_cons_of_pos hc, List.length_cons]
    have := length_dropWhile_le isWordCharacter rest
    omega
  unfold wordFrom
  simp only
  split
  · rename_i d tail _ heq
    rw [heq] at hdrop
    split
    · have := length_dropWhile_le isWordCharacter (d :: tail)
      simp only [List.length_cons] at this hdrop ⊢
      omega
    · exact hdrop
  · exact hdrop

theorem length_quotedText {severalLines : Bool} {scan : Scan} {bound : Nat} {token : Token}
    {rest : List Char} (hscan : scan.Within bound)
    (h : quotedText severalLines scan = some (token, rest)) : rest.length < bound := by
  obtain ⟨⟨text, rest'⟩, hs, he⟩ := Option.map_eq_some_iff.1 h
  simp only [Prod.mk.injEq] at he
  exact he.2 ▸ hscan _ _ hs

theorem length_afterComment {s rest : List Char} {token : Token}
    (h : afterComment s = some (token, rest)) : rest.length ≤ s.length := by
  unfold afterComment at h
  simp only at h
  split at h
  · split at h
    · simp at h
    · simp only [Option.some.injEq, Prod.mk.injEq] at h
      exact h.2 ▸ length_dropWhile_le _ s
  · split at h
    · simp at h
    · simp only [Option.some.injEq, Prod.mk.injEq] at h
      exact h.2 ▸ length_dropWhile_le _ s

theorem length_next? {s rest : List Char} {token : Token} (h : next? s = some (token, rest)) :
    rest.length < s.length := by
  fun_cases next? s with
  | case1 => simp [next?] at h
  | case2 tail => simp [next?] at h; simp only [← h.2, List.length_cons]; omega
  | case3 tail =>
    have := length_afterComment (by simpa only [next?] using h)
    simp only [List.length_cons]
    omega
  | case4 tail =>
    have := length_quotedText (within_basicLines _ _) (by simpa only [next?] using h)
    have := length_withoutFirstLineEnd tail
    simp only [List.length_cons]
    omega
  | case5 tail =>
    have := length_quotedText (within_literalLines _) (by simpa only [next?] using h)
    have := length_withoutFirstLineEnd tail
    simp only [List.length_cons]
    omega
  | case6 tail =>
    have := length_quotedText (within_basic _) (by simpa only [next?] using h)
    simp only [List.length_cons]
    omega
  | case7 tail =>
    have := length_quotedText (within_literal _) (by simpa only [next?] using h)
    simp only [List.length_cons]
    omega
  | case8 c tail _ _ _ _ _ _ mark hm => simp_all [next?]
  | case9 c tail _ _ _ _ _ _ hm hc =>
    have := length_wordFrom tail hc
    simp_all [next?]
  | case10 => simp_all [next?]

def lex (s : List Char) : Option (List Token) :=
  if s.isEmpty then some []
  else
    match _hn : next? s with
    | none => none
    | some (token, rest) => (lex rest).map (token :: ·)
termination_by s.length
decreasing_by exact length_next? _hn

end Token

end EditorBridge.Toml
