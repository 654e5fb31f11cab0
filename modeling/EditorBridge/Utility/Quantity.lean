import EditorBridge.Utility.Basic

/-!
# Quantities

Numbers in arguments that may be followed by a letter for a multiple.
-/
namespace EditorBridge.Utility

open Host Act

inductive QuantityProblem where
  | invalid
  | tooGreat
  deriving DecidableEq, Repr

namespace Quantity

/-- The letters for powers of a thousand, in their order. -/
def powers : Raw := "KMGTPEZYRQ".toList

/-- What a letter multiplies by, counting in thousands of some kind. -/
def factor (thousand : Nat) (letter : Char) : Nat :=
  match letter with
  | 'b' => 512
  | 'B' => 1024
  | 'w' => 2
  | 'c' => 1
  | letter => Nat.pow thousand ((powers.findIdx (· = letter.toUpper)) + 1)

/-- What the letters behind a number multiply by, those being known that are listed. -/
def multiple? (known : Raw) : Raw → Option Nat
  | [] => some 1
  | letter :: rest =>
      if !known.contains letter then none
      else
        let isPower := powers.contains letter.toUpper
        if rest = [] then some (factor 1024 letter)
        else if isPower && known.contains '0' && rest = ['i', 'B'] then some (factor 1024 letter)
        else if isPower && known.contains '0' && (rest = ['B'] || rest = ['D']) then
          some (factor 1000 letter)
        else none

def read (known : String) (text : Raw) : Except QuantityProblem Nat :=
  let text := text.dropWhile fun c => c = ' ' || (9 ≤ c.toNat && c.toNat ≤ 13)
  let text := match text with
    | '+' :: rest => rest
    | text => text
  let digits := text.takeWhile Char.isDigit
  let letters := text.drop digits.length
  if digits = [] && letters = [] then .error .invalid
  else match multiple? known.toList letters with
    | none => .error .invalid
    | some multiple =>
        let n := (Raw.nat? digits).getD 1 * multiple
        if UInt64.size ≤ n then .error .tooGreat else .ok n

/-- The letters that quantities of bytes and lines may have. -/
def sizeLetters : String := "bkKmMGTPEZYRQ0"

end Quantity

/-- The quantity that a text is; give up if it is none, with words about what it should be. -/
def quantityOf (known : String) (complaint : String) (text : Raw) : Act Nat := do
  let shown := complaint.toList ++ ": ".toList ++ Quoting.shown text
  match Quantity.read known text with
  | .ok n => return n
  | .error .invalid => giveUp shown
  | .error .tooGreat => giveUp (shown ++ ": Value too large for defined data type".toList)

end EditorBridge.Utility
