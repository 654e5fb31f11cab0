import Std.Data.HashMap
import EditorBridge.Format.Directive
import EditorBridge.Utility.Records.Program
import EditorBridge.Utility.Sorting

/-!
# Values

A value is a number or a text, or a text from outside that counts as a number if it looks like one.
A number that is whole is written with all its digits, others by a format.
-/
namespace EditorBridge.Utility.Records

open Format (Magnitude)

/-- The sign of a number, and how great it is. -/
def magnitudeOf (x : Float) : Bool × Magnitude :=
  let bits := x.toBits.toNat
  let half := Nat.pow 2 52
  let exponent := bits / half % 2048
  let digits := bits % half
  let negative := bits / half / 2048 = 1
  if exponent = 2047 then (negative || digits ≠ 0, if digits = 0 then .infinite else .undefined)
  else
    let (digits, place) : Nat × Int :=
      if exponent = 0 then (digits, -1074) else (digits + half, (exponent : Int) - 1075)
    let (up, down) := Format.power 2 place
    (negative, .finite (digits * up) down)

def ofMagnitude (negative : Bool) (magnitude : Magnitude) : Float :=
  let x : Float := match magnitude with
    | .infinite => 1.0 / 0.0
    | .undefined => 0.0 / 0.0
    | .finite numerator denominator =>
        if numerator = 0 then 0.0
        else
          let (digits, place) := Format.binaryDigits 53 numerator denominator
          digits.toUInt64.toFloat.scaleB place
  if negative then -x else x

/-- The number at the start of a text, and what comes after it. -/
def numberAt (text : Raw) : Float × Raw :=
  let read := Format.readFraction text
  (ofMagnitude read.negative read.magnitude, read.rest)

/-- A number without its part after the point; one that is too great is the greatest there is. -/
def truncated (x : Float) : Int :=
  let greatest : Int := UInt64.size / 2 - 1
  let (negative, magnitude) := magnitudeOf x
  let n : Int := match magnitude with
    | .infinite => greatest
    | .undefined => greatest + 1
    | .finite numerator denominator => min greatest (numerator / denominator : Nat)
  if negative then -n else n

/-- The whole number that a number is, unless it is too great. -/
def whole? (x : Float) : Option Int :=
  match magnitudeOf x with
  | (negative, .finite numerator denominator) =>
      let n := numerator / denominator
      if numerator % denominator ≠ 0 then none
      else if negative then
        if n ≤ UInt64.size / 2 then some (-(min n (UInt64.size / 2 - 1) : Nat)) else none
      else if n ≤ UInt64.size then some (min n (UInt64.size - 1) : Nat) else none
  | _ => none

inductive Value where
  | unset
  | number (x : Float)
  | text (raw : Raw)
  /-- A text from outside, which may count as a number. -/
  | input (raw : Raw)

def looksNumeric (raw : Raw) : Bool :=
  let (_, rest) := numberAt raw
  rest.length < raw.length && rest.all Format.isBlank

def ofBool (holds : Bool) : Value := .number (if holds then 1 else 0)

def ofNat (n : Nat) : Value := .number (Float.ofNat n)

inductive FormatFault where
  | argumentsMissing
  /-- The directive with a number is none. -/
  | improper (number : Nat)
  deriving DecidableEq, Repr

def writeNumber (directive : Format.Directive) (x : Float) : Raw :=
  let (negative, magnitude) := magnitudeOf x
  directive.ofFraction ⟨53, 1⟩ negative magnitude

def directiveIn (format : Raw) : Format.Directive × Raw × Raw :=
  let before := format.takeWhile (· ≠ '%')
  let rest := (format.drop before.length).drop 1
  let flags := rest.takeWhile "-+ #0".toList.contains
  let rest := rest.drop flags.length
  let width := rest.takeWhile Char.isDigit
  let rest := rest.drop width.length
  let (precision, rest) : Option Raw × Raw := match rest with
    | '.' :: rest => (some (rest.takeWhile Char.isDigit), rest.dropWhile Char.isDigit)
    | rest => (none, rest)
  (⟨flags, (Raw.nat? width).map fun n => (n : Int),
    precision.map fun digits => ((Raw.nat? digits).getD 0 : Int), rest.headD 'g'⟩, before,
    rest.drop 1)

namespace Value

def toNumber : Value → Float
  | unset => 0
  | number x => x
  | text raw | input raw => (numberAt raw).1

/-- A value as a text, a number that is not whole being written by a format. -/
def toText (format : Raw) : Value → Raw
  | unset => []
  | number x =>
      match whole? x with
      | some n => Raw.ofInt n
      | none =>
          let (directive, before, after) := directiveIn format
          let written :=
            if directive.conversion = 'd' || directive.conversion = 'i' then
              directive.ofInt (truncated x)
            else writeNumber directive x
          before ++ written ++ after
  | text raw | input raw => raw

def isNumeric : Value → Bool
  | unset | number _ => true
  | text _ => false
  | input raw => looksNumeric raw

def isTrue : Value → Bool
  | unset => false
  | number x => x != 0
  | text raw => raw ≠ []
  | input raw => if looksNumeric raw then (numberAt raw).1 != 0 else raw ≠ []

/-- How a value compares to another one: as numbers if both count as such, and as texts otherwise.
-/
def compare (format : Raw) (a b : Value) : Ordering :=
  if a.isNumeric && b.isNumeric then
    let (x, y) := (a.toNumber, b.toNumber)
    if x > y then .gt else if x == y then .eq else .lt
  else Sorting.compareTexts (a.toText format) (b.toText format)

end Value

/-- Whether a relation holds between values that compare in some way. -/
def Relation.holds (relation : Relation) (ordering : Ordering) : Bool :=
  match relation with
  | .less => ordering = .lt
  | .atMost => ordering ≠ .gt
  | .equal => ordering = .eq
  | .unequal => ordering ≠ .eq
  | .greater => ordering = .gt
  | .atLeast => ordering ≠ .lt

/-- What an operator makes of two numbers. -/
def Operator.apply (operator : Operator) (x y : Float) : Float :=
  match operator with
  | .plus => x + y
  | .minus => x - y
  | .times => x * y
  | .dividedBy => x / y
  | .power => x.pow y
  | .modulo =>
      match magnitudeOf x, magnitudeOf y with
      | (negative, .finite a b), (_, .finite c d) =>
          if c = 0 then 0.0 / 0.0 else ofMagnitude negative (.finite (a * d % (c * b)) (b * d))
      | (_, .finite _ _), (_, .infinite) => x
      | _, _ => 0.0 / 0.0

/-- A value by a directive; there is none for some letters. -/
def written? (convention : Raw) (directive : Format.Directive) (value : Value) : Option Raw :=
  let letter := directive.conversion
  let one (letters : String) : Bool := letters.toList.contains letter
  if letter = 's' then some (directive.ofText (value.toText convention))
  else if letter = 'c' then
    some (directive.ofCharacter (match value with
      | .number x => Char.ofNat ((truncated x).emod 256).toNat
      | value => (value.toText convention).headD '\x00'))
  else if one "di" then some (directive.ofInt (truncated value.toNumber))
  else if one "ouxX" then
    let n := truncated value.toNumber
    some (directive.ofNat (n.emod UInt64.size).toNat)
  else if one "feEgGF" then some (writeNumber directive value.toNumber)
  else none

/-- Values by a format, from the directive with some number on, and what is wrong with it; a text is
there as far as all is right. -/
def formatted (convention : Raw) : Nat → Nat → Raw → List Value → Raw × Option FormatFault
  | 0, _, _, _ => ([], none)
  | fuel + 1, number, format, values =>
      let plain := format.takeWhile (· ≠ '%')
      match format.drop plain.length with
      | [] => (plain, none)
      | '%' :: '%' :: rest =>
          let (text, fault) := formatted convention fuel number rest values
          (plain ++ '%' :: text, fault)
      | _ :: rest =>
          let flags := rest.takeWhile "-+ #0".toList.contains
          let measure (rest : Raw) (values : List Value) : Option (Option Int × Raw × List Value) :=
            match rest with
            | '*' :: rest =>
                match values with
                | value :: values => some (some (truncated value.toNumber), rest, values)
                | [] => none
            | rest =>
                let digits := rest.takeWhile Char.isDigit
                some ((Raw.nat? digits).map fun n => (n : Int), rest.drop digits.length, values)
          let read : Option (Format.Directive × Raw × List Value) := do
            let (width, rest, values) ← measure (rest.drop flags.length) values
            let (precision, rest, values) ← match rest with
              | '.' :: rest => do
                  let (precision, rest, values) ← measure rest values
                  pure (some (precision.getD 0), rest, values)
              | rest => pure (none, rest, values)
            let rest := rest.dropWhile "hlLqjzt".toList.contains
            return (⟨flags, width, precision, rest.headD '\x00'⟩, rest.drop 1, values)
          match read with
          | none => (plain, some .argumentsMissing)
          | some (directive, rest, values) =>
              if (written? convention directive .unset).isNone then
                (plain, some (.improper number))
              else match values with
                | [] => (plain, some .argumentsMissing)
                | value :: values =>
                    let (text, fault) := formatted convention fuel (number + 1) rest values
                    (plain ++ (written? convention directive value).getD [] ++ text, fault)

/-- Keys are told apart by their characters in their order. -/
instance : Hashable Raw where
  hash raw := raw.foldl (fun hash c => mixHash hash c.val.toUInt64) 7

/-- Values by their keys.  Going through them follows the places that the keys have. -/
structure Table where
  values : Std.HashMap Raw Value
  /-- The keys, the latest first, with the numbers as which they were given. -/
  keys : List (Raw × Option Int)

namespace Table

def empty : Table := ⟨∅, []⟩

def get? (table : Table) (key : Raw) : Option Value := table.values[key]?

def put (table : Table) (key : Raw) (number : Option Int) (value : Value) : Table :=
  { values := table.values.insert key value
    keys := if table.values.contains key then table.keys else (key, number) :: table.keys }

/-- A table without a key. -/
def erase (table : Table) (key : Raw) : Table :=
  if table.values.contains key then
    ⟨table.values.erase key, table.keys.filter fun entry => entry.1 ≠ key⟩
  else table

/-- A number of 32 bits for a key, which mixes the bytes of it. -/
def mixed (key : Raw) : Nat :=
  (key.foldl (fun (n : UInt32) c => (n ^^^ c.toNat.toUInt32) * 16777619) 2166136261).toNat

/-- How many places there are for so many keys: so many that there are few keys at each. -/
def placesFor (count : Nat) : Nat → Nat → Nat
  | 0, places => places
  | fuel + 1, places =>
      if places * 12 < count then placesFor count fuel (places * 2) else places

/-- The keys in the order of their places.  At one place the latest comes first, where a key that
was given as a number comes later than others. -/
def inOrder (table : Table) : List Raw :=
  let places := placesFor table.keys.length 20 64
  let texts := (table.keys.filter fun entry => entry.2.isNone).reverse
  let numbers := (table.keys.filter fun entry => entry.2.isSome).mergeSort fun a b =>
    (a.2.getD 0).emod places ≤ (b.2.getD 0).emod places
  ((texts ++ numbers).reverse.mergeSort fun a b => mixed a.1 % places ≤ mixed b.1 % places).map
    (·.1)

end Table

end EditorBridge.Utility.Records
