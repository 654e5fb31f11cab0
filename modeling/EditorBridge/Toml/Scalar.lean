import EditorBridge.Text.Scan
import EditorBridge.Toml.Value

/-!
# TOML words as values

What a value without quotes stands for: a boolean, an integer, a floating-point number, a date, a
time, or both.  Underscores may stand between digits.  Only decimal numbers have a sign, and none
has a leading zero.  So far these are the rules of TOML 1.1.

For the rest this follows the `toml` library, which asks for less: of an integer only the outer
shape counts.  The first digits of a decimal integer, or the base in front of the others, tell that
a word is one, and hexadecimal digits on both sides of an underscore are good enough; an integer
whose digits turn out to be none, or not to be of its base, has no value.
-/
namespace EditorBridge.Toml.Scalar

open EditorBridge.Text EditorBridge.Unicode

def parts : List Char → List (List Char)
  | [] => [[]]
  | c :: rest =>
      if c = '_' then [] :: parts rest
      else match parts rest with
        | [] => [[c]]
        | part :: more => (c :: part) :: more

/-- Whether the parts after the first are well placed: an underscore has a digit on either side. -/
def laterPartsFit (isDigit : Char → Bool) : List (List Char) → Bool
  | [] => true
  | [part] => part.head?.any isDigit
  | part :: more =>
      part.head?.any isDigit && part.getLast?.any isDigit && laterPartsFit isDigit more

/-- Whether all underscores of a text are well placed.  A first part of one character may be the
sign, so it counts as a digit; but when something was cut off before the text, the first part is
like any other. -/
def underscoresFit (isDigit : Char → Bool) (cutOff : Bool) (text : List Char) : Bool :=
  match parts text with
  | [] | [_] => true
  | first :: more =>
      if cutOff then laterPartsFit isDigit (first :: more)
      else (first.length = 1 || first.getLast?.any isDigit) && laterPartsFit isDigit more

def withoutUnderscores (text : List Char) : List Char := text.filter (· ≠ '_')

def isIntegerDigit (c : Char) : Bool := (hexDigit? c).isSome

/-- The value of digits in a base, if they are digits of it. -/
def inBase? (base : Nat) : List Char → Option Int
  | [] => none
  | digits =>
      (digits.foldlM (fun n c => (hexDigit? c).bind fun digit =>
        if digit < base then some (n * base + digit) else none) 0).map Int.ofNat

def prefixed? (base : Nat) (text : List Char) : Option Value :=
  if (text.all fun c => c = '_' || (hexDigit? c).any (· < base))
      && underscoresFit isIntegerDigit true text then
    some (.integer (inBase? base (withoutUnderscores text)))
  else none

/-- Digits and underscores, with at least one digit among them, and what follows them.  Where no
zero may lead, only a single one does. -/
def afterDigits? (mayLeadWithZero : Bool) (text : List Char) : Option (List Char) :=
  let written := text.takeWhile fun c => c = '_' || Decimal.isDigit c
  let count := (withoutUnderscores written).length
  if count = 0 ∨ (!mayLeadWithZero ∧ 1 < count ∧ written.head? = some '0') then none
  else some (text.dropWhile fun c => c = '_' || Decimal.isDigit c)

/-- Whether a text has the shape of a number with a fraction or an exponent. -/
def isFloat (text : List Char) : Bool :=
  let afterFraction? := fun
    | '.' :: text => afterDigits? true text
    | text => some text
  let afterExponent? := fun
    | 'e' :: '+' :: text | 'E' :: '+' :: text | 'e' :: '-' :: text | 'E' :: '-' :: text
    | 'e' :: text | 'E' :: text => afterDigits? true text
    | text => some text
  (afterDigits? false text >>= afterFraction? >>= afterExponent?) = some []

/-- A number with its sign, if it has one; `unsigned` is the text without that. -/
def number? (negative : Bool) (unsigned text : List Char) : Option Value :=
  let rest := unsigned.dropWhile Decimal.isDigit
  if rest.any (".eE".toList.contains ·) then do
    guard (isFloat unsigned ∧ underscoresFit Decimal.isDigit false text)
    return .float (some (← Decimal.parse? (withoutUnderscores unsigned)))
  else do
    guard (unsigned ≠ [] ∧ (rest = [] ∨ rest.head? = some '_'))
    guard (unsigned.head? ≠ some '0' ∨ unsigned.length = 1)
    guard (underscoresFit isIntegerDigit false text)
    let size := inBase? 10 (withoutUnderscores unsigned)
    return .integer (if negative then size.map (- ·) else size)

def signed? (negative : Bool) (unsigned text : List Char) : Option Value :=
  match unsigned with
  | ['i', 'n', 'f'] | ['n', 'a', 'n'] => some (.float none)
  | _ => number? negative unsigned text

def twoDigits : List Char → Option (Nat × List Char)
  | a :: b :: rest => do return ((← asciiDigit? a) * 10 + (← asciiDigit? b), rest)
  | _ => none

def after (mark : Char) : List Char → Option (List Char)
  | c :: rest => if c = mark then some rest else none
  | [] => none

def daysIn (year month : Nat) : Nat :=
  if month = 2 then
    if year % 4 = 0 ∧ (year % 100 ≠ 0 ∨ year % 400 = 0) then 29 else 28
  else if month = 4 ∨ month = 6 ∨ month = 9 ∨ month = 11 then 30
  else 31

def date? (s : List Char) : Option (List Char) := do
  let (century, s) ← twoDigits s
  let (year, s) ← twoDigits s
  let (month, s) ← after '-' s >>= twoDigits
  let (day, s) ← after '-' s >>= twoDigits
  let inMonth := 1 ≤ day ∧ day ≤ daysIn (century * 100 + year) month
  if 1 ≤ month ∧ month ≤ 12 ∧ inMonth then some s else none

/-- What follows a fraction of a second, or the text itself when there is none. -/
def fraction? : List Char → Option (List Char)
  | '.' :: s =>
      match s.takeWhile Decimal.isDigit with
      | [] => none
      | _ => some (s.dropWhile Decimal.isDigit)
  | s => some s

/-- A time of day, whose seconds may be left out, and what follows it. -/
def time? (s : List Char) : Option (List Char) := do
  let (hour, s) ← twoDigits s
  let (minute, s) ← after ':' s >>= twoDigits
  if hour > 23 ∨ minute > 59 then none
  else match s with
    | ':' :: s =>
        let (second, s) ← twoDigits s
        if second > 60 then none else fraction? s
    | s => some s

/-- Whether a text is an offset from universal time, or empty. -/
def isOffset : List Char → Bool
  | [] | ['Z'] | ['z'] => true
  | sign :: s =>
      (sign = '+' || sign = '-') && match time? s with
        | some [] => s.length = 5
        | _ => false

def isDateTime (s : List Char) : Bool :=
  match date? s with
  | some [] => true
  | some (mark :: rest) =>
      (mark = 'T' || mark = 't' || mark = ' ') && (time? rest).any isOffset
  | none => (time? s).any List.isEmpty

def decode? (word : List Char) : Option Value :=
  match word with
  | ['t', 'r', 'u', 'e'] => some (.boolean true)
  | ['f', 'a', 'l', 's', 'e'] => some (.boolean false)
  | '+' :: s => signed? false s word
  | '-' :: s => signed? true s word
  | '0' :: 'x' :: s => prefixed? 16 s
  | '0' :: 'o' :: s => prefixed? 8 s
  | '0' :: 'b' :: s => prefixed? 2 s
  | s => if isDateTime s then some .dateTime else signed? false s s

end EditorBridge.Toml.Scalar
