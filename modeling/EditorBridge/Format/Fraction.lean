import EditorBridge.Format.Number

/-!
# Fractions in arguments

A number with a point or an exponent is rounded to so many binary digits as the machine has for it,
a tie to the even neighbour, and is written from the exact value that it then has.
-/
namespace EditorBridge.Format

inductive Magnitude where
  /-- The exact value is the quotient. -/
  | finite (numerator denominator : Nat)
  | infinite
  | undefined
  deriving DecidableEq, Repr

/-- A quotient rounded to a whole number, a tie to the even neighbour. -/
def roundQuotient (numerator denominator : Nat) : Nat :=
  let whole := numerator / denominator
  let twice := 2 * (numerator % denominator)
  if twice < denominator then whole
  else if denominator < twice then whole + 1
  else whole + whole % 2

/-- Factors for a power: those of the numerator and of the denominator. -/
def power (base : Nat) (exponent : Int) : Nat × Nat :=
  (Nat.pow base exponent.toNat, Nat.pow base (-exponent).toNat)

/-- A quotient as so many binary digits and the exponent of the last of them. -/
def binaryDigits (bits numerator denominator : Nat) : Nat × Int :=
  let place : Int := (numerator.log2 : Int) - denominator.log2 - bits
  let rounded (place : Int) : Nat :=
    let (up, down) := power 2 place
    roundQuotient (numerator * down) (denominator * up)
  let place := if rounded place < Nat.pow 2 bits then place else place + 1
  if rounded place < Nat.pow 2 bits then (rounded place, place)
  else (rounded place / 2, place + 1)

/-- A quotient rounded to so many binary digits. -/
def roundToBits (bits numerator denominator : Nat) : Nat × Nat :=
  if numerator = 0 then (0, 1)
  else
    let (digits, place) := binaryDigits bits numerator denominator
    let (up, down) := power 2 place
    (digits * up, down)

/-- A number with its sign, and what comes after it; the whole text if there is no number. -/
structure ReadFraction where
  negative : Bool
  magnitude : Magnitude
  rest : Raw
  deriving DecidableEq, Repr

/-- The exponent after one of two letters, and what comes after it. -/
def exponentAfter (letter : Char) (text : Raw) : Int × Raw :=
  match text with
  | c :: rest =>
      if c.toLower ≠ letter then (0, text)
      else
        let (negative, digits) := match rest with
          | '-' :: digits => (true, digits)
          | '+' :: digits => (false, digits)
          | digits => (false, digits)
        match Raw.nat? (digits.takeWhile Char.isDigit) with
        | some n => (if negative then -(n : Int) else n, digits.dropWhile Char.isDigit)
        | none => (0, text)
  | [] => (0, [])

/-- A word at the start of a text, whatever the size of its letters. -/
def afterWord? (word : String) (text : Raw) : Option Raw :=
  if (text.take word.length).map Char.toLower = word.toList then some (text.drop word.length)
  else none

def readFraction (text : Raw) : ReadFraction :=
  let after := text.dropWhile isBlank
  let (negative, after) := match after with
    | '-' :: after => (true, after)
    | '+' :: after => (false, after)
    | after => (false, after)
  let (base, letter, unit, after) := match after with
    | '0' :: x :: more =>
        if x = 'x' || x = 'X' then (16, 'p', 2, more) else (10, 'e', 10, after)
    | _ => (10, 'e', 10, after)
  let isDigit (c : Char) : Bool := (Text.hexDigit? c).any (· < base)
  let whole := after.takeWhile isDigit
  let (fraction, rest) := match after.drop whole.length with
    | '.' :: rest => (rest.takeWhile isDigit, rest.dropWhile isDigit)
    | rest => ([], rest)
  if whole = [] && fraction = [] then
    match afterWord? "infinity" after, afterWord? "inf" after, afterWord? "nan" after with
    | some rest, _, _ | none, some rest, _ => ⟨negative, .infinite, rest⟩
    | none, none, some rest => ⟨negative, .undefined, rest⟩
    | none, none, none => ⟨false, .finite 0 1, text⟩
  else
    let (exponent, rest) := exponentAfter letter rest
    let exponent := max (-5000) (min 5000 exponent)
    let digits := (whole ++ fraction).foldl (fun n c => n * base + (Text.hexDigit? c).getD 0) 0
    let (up, down) := power unit exponent
    ⟨negative, .finite (digits * up) (Nat.pow base fraction.length * down), rest⟩

/-- Digits with a point before the last ones. -/
def withPoint (digits : Raw) (places : Nat) (keepsPoint : Bool) : Raw :=
  let digits := List.replicate (places + 1 - digits.length) '0' ++ digits
  let whole := digits.take (digits.length - places)
  if places = 0 then whole ++ (if keepsPoint then ['.'] else [])
  else whole ++ '.' :: digits.drop (digits.length - places)

/-- A value with so many places after the point. -/
def positional (numerator denominator places : Nat) (keepsPoint : Bool) : Raw :=
  withPoint (Raw.ofNat (roundQuotient (numerator * Nat.pow 10 places) denominator)) places
    keepsPoint

/-- The decimal exponent of a value with so many places after its first digit, and its digits. -/
def scientificDigits (numerator denominator places : Nat) : Int × Nat :=
  if numerator = 0 then (0, 0)
  else
    let rounded (exponent : Int) : Nat :=
      let (up, down) := power 10 (places - exponent)
      roundQuotient (numerator * up) (denominator * down)
    let guess : Int :=
      ((Nat.toDigits 10 numerator).length : Int) - (Nat.toDigits 10 denominator).length
    let (up, down) := power 10 guess
    let exponent := if numerator * down < denominator * up then guess - 1 else guess
    if rounded exponent < Nat.pow 10 (places + 1) then (exponent, rounded exponent)
    else (exponent + 1, rounded (exponent + 1))

/-- An exponent with its letter, its sign and so many digits at least. -/
def writtenExponent (letter : Char) (least : Nat) (exponent : Int) : Raw :=
  let digits := Raw.ofNat exponent.natAbs
  letter :: (if exponent < 0 then '-' else '+') ::
    (List.replicate (least - digits.length) '0' ++ digits)

def scientific (numerator denominator places : Nat) (keepsPoint : Bool) : Raw :=
  let (exponent, digits) := scientificDigits numerator denominator places
  withPoint (Raw.ofNat digits) places keepsPoint ++ writtenExponent 'e' 2 exponent

/-- Without zeros at the end of the places after the point. -/
def withoutTrailingZeros (text : Raw) : Raw :=
  let mantissa := text.takeWhile (· ≠ 'e')
  let shortened := if mantissa.contains '.' then
      ((mantissa.reverse.dropWhile (· = '0')).dropWhile (· = '.')).reverse
    else mantissa
  shortened ++ text.drop mantissa.length

/-- A value in whichever way is shorter, with so many digits in all. -/
def general (numerator denominator precision : Nat) (keepsZeros : Bool) : Raw :=
  let precision := max 1 precision
  let (exponent, _) := scientificDigits numerator denominator (precision - 1)
  let text := if exponent < -4 ∨ (precision : Int) ≤ exponent then
      scientific numerator denominator (precision - 1) keepsZeros
    else positional numerator denominator (precision - 1 - exponent).toNat keepsZeros
  if keepsZeros then text else withoutTrailingZeros text

/-- A value in hexadecimal, its first digit holding so many bits. -/
def hexadecimal (bits leading numerator denominator : Nat) : Raw :=
  if numerator = 0 then "0x0p+0".toList
  else
    let (digits, place) := binaryDigits bits numerator denominator
    let shift := bits - 1 - digits.log2
    let digits := digits * Nat.pow 2 shift
    let places := (bits - leading) / 4
    let text := withPoint (Nat.toDigits 16 digits) places false
    let text := if text.contains '.' then
        ((text.reverse.dropWhile (· = '0')).dropWhile (· = '.')).reverse
      else text
    '0' :: 'x' :: text ++ writtenExponent 'p' 1 (place - shift + (bits - leading : Nat))

end EditorBridge.Format
