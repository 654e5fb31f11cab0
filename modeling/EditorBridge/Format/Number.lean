import EditorBridge.Text.Raw
import EditorBridge.Text.Scan

/-!
# Numbers in arguments

The number at the start of a text: octal after a zero, hexadecimal after a zero and an x, binary
after a zero and a b.  What is left of the text, and whether the number is too great for 64 bits,
is told as well.
-/
namespace EditorBridge.Format

structure ReadNumber where
  value : Int
  /-- What comes after it; the whole text if there is no number. -/
  rest : Raw
  isTooGreat : Bool
  deriving DecidableEq, Repr

/-- Blanks of all kinds. -/
def isBlank (c : Char) : Bool := " \t\n\x0b\x0c\r".toList.contains c

/-- The digits of a number, their base, and what comes after them. -/
def digitsIn (text : Raw) : Nat × Raw × Raw :=
  let split (base : Nat) (text : Raw) : Nat × Raw × Raw :=
    let digits := text.takeWhile fun c => (Text.hexDigit? c).any (· < base)
    (base, digits, text.drop digits.length)
  match text with
  | '0' :: x :: c :: rest =>
      if (x = 'x' || x = 'X') && (Text.hexDigit? c).isSome then split 16 (c :: rest)
      else if (x = 'b' || x = 'B') && (c = '0' || c = '1') then split 2 (c :: rest)
      else split 8 text
  | '0' :: _ => split 8 text
  | _ => split 10 text

/-- The number at the start of a text; if it is taken as unsigned, a minus sign counts it from the
top. -/
def readNumber (signed : Bool) (text : Raw) : ReadNumber :=
  let after := text.dropWhile isBlank
  let (negative, after) := match after with
    | '-' :: after => (true, after)
    | '+' :: after => (false, after)
    | after => (false, after)
  let (base, digits, rest) := digitsIn after
  if digits = [] then ⟨0, text, false⟩
  else
    let magnitude : Nat := digits.foldl (fun n c => n * base + (Text.hexDigit? c).getD 0) 0
    let n : Int := magnitude
    let top : Int := UInt64.size
    if signed then
      let value := if negative then -n else n
      if value < -(top / 2) then ⟨-(top / 2), rest, true⟩
      else if top / 2 ≤ value then ⟨top / 2 - 1, rest, true⟩
      else ⟨value, rest, false⟩
    else if top ≤ n then ⟨top - 1, rest, true⟩
    else ⟨if negative then (-n).emod top else n, rest, false⟩

end EditorBridge.Format
