import EditorBridge.Decimal.Basic

/-!
# Numbers beyond the range of binary floating point

Whether a decimal number is too large for a binary floating-point number of 64 bits, by two rules.
The first is exact: the number rounds to infinity.  The second is that of a cheaper conversion,
which keeps the leading digits that fit into 64 bits, rounds them and the power of ten they are
scaled by to 53 bits each, and rounds their product; near the end of the range it may err by a unit
or two.
-/
namespace EditorBridge.Decimal

open EditorBridge.Unicode

/-- The least number that rounds to infinity: halfway between the largest finite number and the
next power of two. -/
def roundsToInfinity : Nat := Nat.pow 2 1024 - Nat.pow 2 970

/-- Whether a number rounds to infinity. -/
def tooLarge (d : Decimal) : Bool :=
  let digits := d.digits.dropWhile (· = '0')
  let magnitude := digits.length + d.scale
  if digits = [] ∨ magnitude ≤ 308 then false
  else if magnitude > 309 then true
  else match d.scale with
    | .ofNat e => decide (roundsToInfinity ≤ value digits * Nat.pow 10 e)
    | .negSucc e => decide (roundsToInfinity * Nat.pow 10 (e + 1) ≤ value digits)

/-- The leading digits that fit into 64 bits, as a number, and how many digits are left over. -/
def leading (n : Nat) : List Char → Nat × Nat
  | [] => (n, 0)
  | c :: rest =>
      let next := n * 10 + (asciiDigit? c).getD 0
      if next < UInt64.size then leading next rest else (n, (c :: rest).length)

/-- A number rounded to 53 significant bits, a tie to the even neighbour. -/
def round (n : Nat) : Nat :=
  let unit := Nat.pow 2 (n.log2 + 1 - 53)
  let quotient := n / unit
  let remainder := n % unit
  let up := 2 * remainder > unit ∨ (2 * remainder = unit ∧ quotient % 2 = 1)
  (if up then quotient + 1 else quotient) * unit

/-- Whether the product of rounded leading digits and rounded scale rounds to infinity. -/
def productTooLarge (d : Decimal) : Bool :=
  let (significand, rest) := leading 0 d.digits
  match d.scale + rest with
  | .negSucc _ => false
  | .ofNat e =>
      if significand = 0 then false
      else if e > 308 then true
      else decide (Nat.pow 2 1024 ≤ round (round significand * round (Nat.pow 10 e)))

end EditorBridge.Decimal
