import EditorBridge.Format.Directive
import EditorBridge.Utility.Basic

/-!
# Sequences of numbers

Numbers from one on to another one, with the digits that the arguments have, or by a format.
-/
namespace EditorBridge.Utility.Numbers

open Host Act

/-- A number that was given, and how much room it takes when it is written out. -/
structure Given where
  negative : Bool
  magnitude : Format.Magnitude
  width : Int
  /-- How many digits it has behind the point; nothing if that says nothing. -/
  places : Option Nat
  deriving Repr

namespace Given

/-- The value of a number, if it is finite. -/
def value? (given : Given) : Option Rat :=
  match given.magnitude with
  | .finite n d => some (if given.negative then -mkRat n d else mkRat n d)
  | _ => none

def one : Given := ⟨false, .finite 1 1, 1, some 0⟩

/-- The room and the places of a decimal number, which may have an exponent. -/
def measures (text : Raw) : Int × Option Nat :=
  let mantissa := text.takeWhile fun c => c ≠ 'e' && c ≠ 'E'
  let before := mantissa.takeWhile (· ≠ '.')
  let point := mantissa.length ≠ before.length
  let fraction := mantissa.drop (before.length + 1)
  let width : Int := mantissa.length
  let width := if !point then width
    else if fraction = [] then width - 1
    else if before.getLast?.any Char.isDigit then width
    else width + 1
  let places := if point then fraction.length else 0
  match text.drop mantissa.length with
  | [] => (width, some places)
  | _ :: exponent =>
      let exponent := (Raw.int? exponent).getD 0
      let places := if exponent < 0 then places + exponent.natAbs
        else places - min places exponent.natAbs
      let width := if exponent < 0 && (!point || fraction = []) then width + 1 else width
      (width + exponent.natAbs, some places)

/-- The number that a text is; give up if it is none. -/
def ofText (text : Raw) : Act Given := do
  let read := Format.readFraction text
  if read.rest ≠ [] || text = [] then
    misuse ("invalid floating point argument: ".toList ++ Quoting.shown text)
  let bare := text.dropWhile fun c => Format.isBlank c || c = '+'
  let isHexadecimal := bare.any fun c => c = 'x' || c = 'X'
  match read.magnitude with
  | .undefined =>
      misuse ("invalid ".toList ++ Quoting.shown "not-a-number".toList ++ " argument: ".toList ++
        Quoting.shown text)
  | .infinite => return ⟨read.negative, read.magnitude, 0, some 0⟩
  | .finite _ _ =>
      if isHexadecimal then
        let hasPoint := bare.any fun c => c = '.' || c = 'p'
        return ⟨read.negative, read.magnitude, 0, if hasPoint then none else some 0⟩
      else
        let (width, places) := measures bare
        return ⟨read.negative, read.magnitude, width, places⟩

end Given

inductive Style where
  /-- With so many places, and zeros in front up to some width. -/
  | places (count width : Nat)
  | general
  | format (before : Raw) (directive : Format.Directive) (after : Raw)

def positional (places width : Nat) (value : Rat) : Raw :=
  let digits := Format.positional value.num.natAbs value.den places false
  let sign := if value < 0 then ['-'] else []
  sign ++ List.replicate (width - sign.length - digits.length) '0' ++ digits

def accuracy : Format.Directive.Accuracy := ⟨64, 4⟩

def byDirective (directive : Format.Directive) (value : Rat) : Raw :=
  directive.ofFraction accuracy (value < 0) (.finite value.num.natAbs value.den)

/-- The core of a number as it is written, without what a format puts around it. -/
def Style.core (style : Style) (value : Rat) : Raw :=
  match style with
  | .places count width => positional count width value
  | .general => byDirective ⟨[], none, none, 'g'⟩ value
  | .format _ directive _ => byDirective directive value

def Style.write (style : Style) (value : Rat) : Raw :=
  match style with
  | .format before _ after => before ++ style.core value ++ after
  | style => style.core value

/-- The text of a format up to its directive, and the rest from the percent sign on; two percent
signs stand for one. -/
def literalAhead : Raw → Raw × Raw
  | '%' :: '%' :: rest =>
      let (literal, rest) := literalAhead rest
      ('%' :: literal, rest)
  | '%' :: rest => ([], '%' :: rest)
  | c :: rest =>
      let (literal, rest) := literalAhead rest
      (c :: literal, rest)
  | [] => ([], [])

/-- The style that a format is; give up if it is none. -/
def styleOf (format : Raw) : Act Style := do
  let shown := "format ".toList ++ Quoting.shown format
  let (before, rest) := literalAhead format
  match rest with
  | [] => giveUp (shown ++ " has no % directive".toList)
  | _ :: rest => do
      let flags := rest.takeWhile "-+#0 '".toList.contains
      let rest := rest.drop flags.length
      let width := rest.takeWhile Char.isDigit
      let rest := rest.drop width.length
      let (precision, rest) := match rest with
        | '.' :: rest =>
            let digits := rest.takeWhile Char.isDigit
            (some (((Raw.nat? digits).getD 0 : Nat) : Int), rest.drop digits.length)
        | rest => (none, rest)
      let rest := match rest with
        | 'L' :: rest => rest
        | rest => rest
      match rest with
      | [] => giveUp (shown ++ " ends in %".toList)
      | conversion :: rest => do
          if !"efgaEFGA".toList.contains conversion then
            giveUp (shown ++ " has unknown %".toList ++ conversion :: " directive".toList)
          let (after, rest) := literalAhead rest
          if rest ≠ [] then giveUp (shown ++ " has too many % directives".toList)
          return .format before
            ⟨flags.filter (· ≠ '\''), (Raw.nat? width).map fun n => (n : Int), precision,
              conversion⟩
            after

def suggested (equalWidth : Bool) (first step last : Given) : Style :=
  match first.places, step.places, last.places with
  | some a, some b, some c =>
      let places := max a b
      if !equalWidth then .places places 0
      else
        let firstWidth := first.width + (places - a : Nat) +
          (if a = 0 && 0 < places then 1 else 0)
        let lastWidth := last.width + ((places : Int) - c) +
          (if c = 0 && 0 < places then 1 else if 0 < c && places = 0 then -1 else 0)
        .places places (max firstWidth lastWidth).toNat
  | _, _, _ => .general

def isBeyond (step : Rat) (last : Given) (value : Rat) : Bool :=
  match last.value? with
  | some last => if step < 0 then value < last else last < value
  | none => if step < 0 then !last.negative else last.negative

/-- Whether a number beyond the last one looks like the last one, and unlike the one before it. -/
def looksLast (style : Style) (last : Given) (before value : Rat) : Bool :=
  let core := style.core value
  let read := Format.readFraction core
  let seen : Option Rat := match read.magnitude with
    | .finite n d => if read.rest = [] then some (if read.negative then -mkRat n d else mkRat n d)
        else none
    | _ => none
  seen = last.value? && seen.isSome && core ≠ style.core before

/-- Write numbers, each after the separator; the first one has been written. -/
def writeOthers (style : Style) (separator : Raw) (first step : Rat) (last : Given) :
    Nat → Rat → Nat → Act Unit
  | 0, _, _ => throw .overdue
  | rounds + 1, before, n => do
      if n % 16 = 0 then labour
      let value := first + n * step
      let beyond := isBeyond step last value
      if beyond && !looksLast style last before value then return ()
      put (separator ++ style.write value)
      if beyond then return ()
      writeOthers style separator first step last rounds value (n + 1)

def isNegative (argument : Raw) : Bool :=
  match argument with
  | '-' :: c :: _ => c = '.' || c.isDigit
  | _ => false

def seq : Utility := fun arguments => do
  let options ← optionsOf
    { leadingTable "f:s:w" [("equal-width", .none, 'w'), ("format", .required, 'f'),
        ("separator", .required, 's')] with isOperand := isNegative } arguments
  let texts := options.operands
  if texts.isEmpty then missingOperand []
  match texts with
  | _ :: _ :: _ :: extra :: _ => extraOperand extra
  | _ => pure ()
  let format ← match options.value? 'f' with
    | some format => do pure (some (← styleOf format))
    | none => pure none
  let numbers ← texts.mapM Given.ofText
  let (first, step, last) := match numbers with
    | [last] => (Given.one, Given.one, last)
    | [first, last] => (first, Given.one, last)
    | first :: step :: last :: _ => (first, step, last)
    | [] => (Given.one, Given.one, Given.one)
  if step.value? = some 0 then
    misuse ("invalid Zero increment value: ".toList ++ Quoting.shown ((texts[1]?).getD []))
  if format.isSome && options.has 'w' then
    misuse "format string may not be specified when printing equal width strings".toList
  let style := format.getD (suggested (options.has 'w') first step last)
  match first.value?, step.value? with
  | some start, some step => do
      if !isBeyond step last start then
        put (style.write start)
        let separator := (options.value? 's').getD ['\n']
        writeOthers style separator start step last roundLimit start 1
        put ['\n']
      return 0
  | _, _ => return 0

end EditorBridge.Utility.Numbers
