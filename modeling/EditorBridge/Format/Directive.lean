import EditorBridge.Format.Fraction

/-!
# Directives of formats

A directive says in how wide a field and with how many digits something is written.
-/
namespace EditorBridge.Format

structure Directive where
  flags : Raw
  width : Option Int
  precision : Option Int
  conversion : Char
  deriving DecidableEq, Repr

namespace Directive

def has (directive : Directive) (flag : Char) : Bool := directive.flags.contains flag

/-- Whether what is written stands at the left side of its field. -/
def isLeft (directive : Directive) : Bool := directive.has '-' || directive.width.any (· < 0)

/-- The precision, if there is one; a negative one is none. -/
def precision? (directive : Directive) : Option Nat :=
  directive.precision.bind fun n => if n < 0 then none else some n.toNat

/-- What is written in its field: some sign, zeros to fill the field if that is wanted, and the
rest. -/
def inField (directive : Directive) (zeros : Bool) (sign body : Raw) : Raw :=
  let width := (directive.width.getD 0).natAbs
  let missing := width - (sign.length + body.length)
  if directive.isLeft then sign ++ body ++ List.replicate missing ' '
  else if zeros && directive.has '0' then sign ++ List.replicate missing '0' ++ body
  else List.replicate missing ' ' ++ sign ++ body

/-- A text, of which the precision leaves so much. -/
def ofText (directive : Directive) (text : Raw) : Raw :=
  directive.inField false [] (match directive.precision? with
    | some n => text.take n
    | none => text)

def ofCharacter (directive : Directive) (c : Char) : Raw := directive.inField false [] [c]

def sign (directive : Directive) (negative : Bool) : Raw :=
  if negative then ['-']
  else if directive.has '+' then ['+']
  else if directive.has ' ' then [' '] else []

/-- Digits with as many zeros in front as the precision asks for. -/
def digits (directive : Directive) (base : Nat) (n : Nat) : Raw :=
  let digits := if n = 0 && directive.precision? = some 0 then [] else Nat.toDigits base n
  List.replicate (directive.precision?.getD 0 - digits.length) '0' ++ digits

def ofInt (directive : Directive) (n : Int) : Raw :=
  directive.inField directive.precision?.isNone (directive.sign (n < 0))
    (directive.digits 10 n.natAbs)

/-- A whole number without a sign, in the base of the conversion. -/
def ofNat (directive : Directive) (n : Nat) : Raw :=
  let sharp := directive.has '#'
  let zeros := directive.precision?.isNone
  match directive.conversion with
  | 'o' =>
      let digits := directive.digits 8 n
      directive.inField zeros []
        (if sharp && digits.head? ≠ some '0' then '0' :: digits else digits)
  | 'x' =>
      directive.inField zeros (if sharp && n ≠ 0 then ['0', 'x'] else []) (directive.digits 16 n)
  | 'X' =>
      directive.inField zeros (if sharp && n ≠ 0 then ['0', 'X'] else [])
        ((directive.digits 16 n).map Char.toUpper)
  | _ => directive.inField zeros [] (directive.digits 10 n)

/-- The binary digits of fractions, and how many of them the first hexadecimal digit holds. -/
structure Accuracy where
  bits : Nat
  leading : Nat

/-- A number with a point or an exponent, as the conversion asks for. -/
def ofFraction (directive : Directive) (accuracy : Accuracy) (negative : Bool)
    (magnitude : Magnitude) : Raw :=
  let letter := directive.conversion.toLower
  let sharp := directive.has '#'
  let places := directive.precision?.getD 6
  let (body, zeros) := match magnitude with
    | .infinite => ("inf".toList, false)
    | .undefined => ("nan".toList, false)
    | .finite numerator denominator =>
        let (n, d) := roundToBits accuracy.bits numerator denominator
        (match letter with
          | 'f' => positional n d places sharp
          | 'e' => scientific n d places sharp
          | 'g' => general n d places sharp
          | _ => hexadecimal accuracy.bits accuracy.leading n d, true)
  let body := if directive.conversion.isUpper then body.map Char.toUpper else body
  directive.inField zeros (directive.sign negative) body

end Directive

end EditorBridge.Format
