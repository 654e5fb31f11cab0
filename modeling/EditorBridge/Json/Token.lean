import EditorBridge.Decimal.Range
import EditorBridge.Text.Scan

/-!
# JSON tokens

The tokens of strict JSON: no comments, no other quotes, no further words.

A text is cut into punctuation, strings, numbers and words.  The lexer refuses a text with anything
else in it, with an unknown escape, with half of a surrogate pair, or with a number beyond the
range.
-/
namespace EditorBridge.Json

open EditorBridge.Text

inductive Token where
  | openArray
  | closeArray
  | openObject
  | closeObject
  | comma
  | colon
  | null
  | bool (value : Bool)
  | number (digits : List Char)
  | string (text : List Char)
  deriving DecidableEq, Repr

namespace Token

def isSpace (c : Char) : Bool := c = ' ' || c = '\n' || c = '\t' || c = '\r'

def pair? (high low : Nat) : Option Char :=
  if 0xD800 ≤ high ∧ high ≤ 0xDBFF ∧ 0xDC00 ≤ low ∧ low ≤ 0xDFFF then
    some (Char.ofNat (0x10000 + (high - 0xD800) * 0x400 + (low - 0xDC00)))
  else none

def simpleEscape? : Char → Option Char
  | '"' => some '"'
  | '\\' => some '\\'
  | '/' => some '/'
  | 'b' => some '\x08'
  | 'f' => some '\x0c'
  | 'n' => some '\n'
  | 'r' => some '\r'
  | 't' => some '\t'
  | _ => none

/-- The text of a string, read after its opening quote, and what follows the closing one. -/
def stringText : List Char → Scan
  | [] => none
  | '"' :: rest => some ([], rest)
  | '\\' :: 'u' :: a :: b :: c :: d :: rest =>
      match hexValue? [a, b, c, d] with
      | none => none
      | some unit =>
          match scalar? unit with
          | some ch => (stringText rest).cons ch
          | none =>
              match rest with
              | '\\' :: 'u' :: a :: b :: c :: d :: rest =>
                  match (hexValue? [a, b, c, d]).bind (pair? unit) with
                  | some ch => (stringText rest).cons ch
                  | none => none
              | _ => none
  | '\\' :: e :: rest =>
      match simpleEscape? e with
      | some ch => (stringText rest).cons ch
      | none => none
  | c :: rest => if c.toNat < 0x20 then none else (stringText rest).cons c

theorem within_stringText (s : List Char) : (stringText s).Within s.length := by
  fun_induction stringText s with
  | case2 | case4 | case5 | case8 | case11 =>
    first
    | exact Scan.within_some (by simp)
    | exact Scan.Within.cons (by assumption) (by simp only [List.length_cons]; omega)
  | _ => exact Scan.within_none _

def word? : List Char → Option (Token × List Char)
  | 't' :: 'r' :: 'u' :: 'e' :: rest => some (bool true, rest)
  | 'f' :: 'a' :: 'l' :: 's' :: 'e' :: rest => some (bool false, rest)
  | 'n' :: 'u' :: 'l' :: 'l' :: rest => some (null, rest)
  | _ => none

def punctuation? : Char → Option Token
  | '[' => some openArray
  | ']' => some closeArray
  | '{' => some openObject
  | '}' => some closeObject
  | ',' => some comma
  | ':' => some colon
  | _ => none

def isNumberCharacter (c : Char) : Bool :=
  Decimal.isDigit c || c = '+' || c = '-' || c = '.' || c = 'e' || c = 'E'

def withoutSign : List Char → List Char
  | '-' :: s => s
  | s => s

/-- A number within the range, and what follows it. -/
def number? (s : List Char) : Option (Token × List Char) :=
  let digits := s.takeWhile isNumberCharacter
  match Decimal.parse? (withoutSign digits) with
  | some decimal =>
      if decimal.productTooLarge then none
      else some (number digits, s.dropWhile isNumberCharacter)
  | none => none

/-- The first token of a text that starts with none of the spaces, and what follows it. -/
def next? : List Char → Option (Token × List Char)
  | [] => none
  | c :: rest =>
      match punctuation? c with
      | some mark => some (mark, rest)
      | none =>
          if c = '"' then (stringText rest).map fun (text, rest) => (string text, rest)
          else if isNumberCharacter c then number? (c :: rest)
          else word? (c :: rest)

theorem length_number? {c : Char} {s rest : List Char} {token : Token}
    (hc : isNumberCharacter c = true) (h : number? (c :: s) = some (token, rest)) :
    rest.length < (c :: s).length := by
  simp only [number?] at h
  split at h
  · split at h
    · simp at h
    · simp only [Option.some.injEq, Prod.mk.injEq] at h
      rw [← h.2, List.dropWhile_cons_of_pos hc, List.length_cons]
      have := (List.dropWhile_suffix (l := s) isNumberCharacter).length_le
      omega
  · simp at h

theorem length_word? {s rest : List Char} {token : Token} (h : word? s = some (token, rest)) :
    rest.length < s.length := by
  unfold word? at h
  split at h <;> simp only [Option.some.injEq, Prod.mk.injEq, reduceCtorEq] at h <;>
    (rw [← h.2]; simp only [List.length_cons]; omega)

theorem length_next? {s rest : List Char} {token : Token} (h : next? s = some (token, rest)) :
    rest.length < s.length := by
  cases s with
  | nil => simp [next?] at h
  | cons c tail =>
    simp only [next?] at h
    split at h
    · simp only [Option.some.injEq, Prod.mk.injEq] at h
      simp [h.2]
    · split at h
      · obtain ⟨⟨text, rest'⟩, hs, he⟩ := Option.map_eq_some_iff.1 h
        simp only [Prod.mk.injEq] at he
        have := within_stringText tail _ _ hs
        rw [← he.2, List.length_cons]
        omega
      · split at h
        · rename_i hc
          exact length_number? hc h
        · exact length_word? h

def lex (s : List Char) : Option (List Token) :=
  match s with
  | [] => some []
  | c :: rest =>
      if isSpace c then lex rest
      else
        match _hn : next? (c :: rest) with
        | none => none
        | some (token, rest') => (lex rest').map (token :: ·)
termination_by s.length
decreasing_by
  · simp
  · exact length_next? _hn

end Token

end EditorBridge.Json
