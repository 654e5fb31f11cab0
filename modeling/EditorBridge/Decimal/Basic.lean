import EditorBridge.Unicode.DecimalDigit

/-!
# Decimal numbers

The notation of a number without its sign: an integer part without leading zeros, perhaps a
fraction, perhaps an exponent.
-/
namespace EditorBridge

open EditorBridge.Unicode

/-- A number in decimal notation, without its sign. -/
structure Decimal where
  integer : List Char
  fraction : List Char
  negativeExponent : Bool
  exponent : List Char
  deriving DecidableEq, Repr

namespace Decimal

def isDigit (c : Char) : Bool := (asciiDigit? c).isSome

/-- The exponent of a number: none at all, or a mark, perhaps a sign, and digits. -/
def exponent? : List Char → Option (Bool × List Char)
  | [] => some (false, [])
  | e :: s =>
      if e ≠ 'e' ∧ e ≠ 'E' then none
      else
        let (negative, digits) := match s with
          | '-' :: s => (true, s)
          | '+' :: s => (false, s)
          | s => (false, s)
        if digits ≠ [] ∧ digits.all isDigit then some (negative, digits) else none

def fraction? : List Char → Option (List Char × Bool × List Char)
  | '.' :: s =>
      match s.takeWhile isDigit with
      | [] => none
      | digits => (exponent? (s.dropWhile isDigit)).map fun exponent => (digits, exponent)
  | s => (exponent? s).map fun exponent => ([], exponent)

/-- The number that a text denotes. -/
def parse? (s : List Char) : Option Decimal :=
  match s.takeWhile isDigit with
  | [] => none
  | '0' :: _ :: _ => none
  | integer =>
      (fraction? (s.dropWhile isDigit)).map fun (fraction, negative, exponent) =>
        ⟨integer, fraction, negative, exponent⟩

def value (digits : List Char) : Nat :=
  digits.foldl (fun n c => n * 10 + (asciiDigit? c).getD 0) 0

/-- All digits, before and after the point. -/
def digits (d : Decimal) : List Char := d.integer ++ d.fraction

def writtenExponent (d : Decimal) : Int :=
  if d.negativeExponent then -(value d.exponent : Int) else value d.exponent

/-- The exponent of the last digit: the number is its digits times ten to this power. -/
def scale (d : Decimal) : Int := d.writtenExponent - d.fraction.length

end Decimal

end EditorBridge
