import EditorBridge.Finding.Basic
import EditorBridge.Text.Lines
import EditorBridge.Text.Trim
import EditorBridge.Unicode.DecimalDigit
import EditorBridge.Unicode.WordCharacter

/-!
# Reading a report

The lines of a report that are findings (specification, 4.2).  Their form is a pattern, and what is
read here by hand is what that pattern catches (`Finding.parse?_eq_ofGroups?`).

A report line is a path, a colon, and a remainder of fixed form: line, column, perhaps the end's
line and column, a severity and a message, perhaps with an error code.  A path may contain colons,
so the path is the shortest text before a remainder of that form.

The form is a matter of shape: digits of any script count there, and a code is any bracketed word.
Only then are the numbers read, which must be ASCII and fit into 32 bits; a start that does not
makes the line no finding, an end that does not is left out.
-/
namespace EditorBridge

open EditorBridge.Unicode EditorBridge.Text

namespace Report

/-- The parts of a report line after the path, numbers still as digits. -/
structure Remainder where
  line : List Char
  column : List Char
  stop : Option (List Char × List Char)
  severity : Severity
  text : List Char
  deriving DecidableEq, Repr

/-- Digits and a colon, at least one digit, and what follows. -/
def number : List Char → Option (List Char × List Char) := fun s =>
  match s.takeWhile isDecimalDigit, s.dropWhile isDecimalDigit with
  | [], _ => none
  | digits, ':' :: rest => some (digits, rest)
  | _, _ => none

def position (s : List Char) : Option ((List Char × List Char) × List Char) := do
  let (line, s) ← number s
  let (column, s) ← number s
  return ((line, column), s)

/-- What follows a given beginning of a text. -/
def after : List Char → List Char → Option (List Char)
  | [], s => some s
  | _ :: _, [] => none
  | a :: as, c :: rest => if a = c then after as rest else none

/-- A severity with the colon and space after it, and what follows. -/
def severity (s : List Char) : Option (Severity × List Char) :=
  Severity.all.findSome? fun severity =>
    (after (severity.name.toList ++ [':', ' ']) s).map fun rest => (severity, rest)

/-- Whether a text can be a message: it does not start with white space and stays on one line. -/
def isMessage : List Char → Bool
  | [] => false
  | c :: rest => !isWhiteSpace c && !rest.contains '\n'

/-- The remainder of a report line, from the colon after the path to the end of the text. -/
def remainder : List Char → Option Remainder
  | ':' :: s => do
      let ((line, column), s) ← position s
      let (stop, s) := match position s with
        | some (stop, rest) => (some stop, rest)
        | none => (none, s)
      let (severity, text) ← after [' '] s >>= severity
      if isMessage text then return ⟨line, column, stop, severity, text⟩ else none
  | _ => none

/-- The shortest path before a remainder, and the remainder.  The path read so far, which is not
empty, is reversed. -/
def search (path : List Char) : List Char → Option (List Char × Remainder)
  | [] => none
  | c :: rest =>
      match remainder (c :: rest) with
      | some found => some (path.reverse, found)
      | none => if c = '\n' then none else search (c :: path) rest

def parts : List Char → Option (List Char × Remainder)
  | [] => none
  | c :: rest => if c = '\n' then none else search [c] rest

def value? (digits : List Char) : Option Nat :=
  digits.foldlM (fun n c => (asciiDigit? c).map (n * 10 + ·)) 0

/-- The value of ASCII digits, when it fits into 32 bits. -/
def word? (digits : List Char) : Option Nat := (value? digits).filter (· < UInt32.size)

def isCodeCharacter (c : Char) : Bool := isWordCharacter c || c = '-'

/-- Message and error code: the code is a bracketed word at the end, after two spaces and a message
that is not empty. -/
def messageAndCode (text : List Char) : List Char × Option (List Char) :=
  match text.reverse with
  | ']' :: s =>
      match s.takeWhile isCodeCharacter, s.dropWhile isCodeCharacter with
      | c :: code, '[' :: ' ' :: ' ' :: d :: message =>
          ((d :: message).reverse, some (c :: code).reverse)
      | _, _ => (text, none)
  | _ => (text, none)

/-- The finding that the parts of a report line stand for. -/
def finding? (path : List Char) (found : Remainder) : Option Finding := do
  let line ← word? found.line
  let column ← word? found.column
  let stop := found.stop.bind fun (line, column) => do return (← word? line, ← word? column)
  let (message, code) := messageAndCode found.text
  return {
    path := String.ofList path
    line
    column
    stop
    severity := found.severity
    message := String.ofList message
    code := code.map String.ofList }

/-- The finding on a line, white space at whose end does not count. -/
def ofChars? (line : List Char) : Option Finding := do
  let (path, found) ← parts (trimEnd line)
  finding? path found

end Report

namespace Finding

def parse? (line : String) : Option Finding := Report.ofChars? line.toList

/-- The findings of a report, in order; lines without one are passed over. -/
def ofReport (report : String) : List Finding := (lines report).filterMap Report.ofChars?

end Finding

end EditorBridge
