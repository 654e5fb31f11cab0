import EditorBridge.Regex.Reader
import EditorBridge.Utility.Quantity

/-!
# Numbers of lines, places of columns, and factors of numbers

Lines with their numbers in front; tabulators as blanks, and blanks as tabulators; numbers as
products of primes.
-/
namespace EditorBridge.Utility.Numbering

open Host Act

inductive Style where
  | all
  | nonempty
  | none
  | matching (regex : Regex)

def Style.numbers (style : Style) (line : Raw) : Bool :=
  match style with
  | .all => true
  | .nonempty => line ≠ []
  | .none => false
  | .matching regex => regex.occursIn line

def styleOf (kind : String) (text : Raw) : Act Style := do
  match text with
  | ['a'] => return .all
  | ['t'] => return .nonempty
  | ['n'] => return .none
  | 'p' :: pattern =>
      match EditorBridge.Regex.read ⟨false, true, false⟩ false pattern with
      | .ok (regex, _) => return .matching regex
      | .error fault => giveUp fault.message.toList
  | text => do
      complain (("invalid " ++ kind ++ " numbering style: ").toList ++ Quoting.shown text)
      giveUpHelpfully

/-- A number in a column: at its left, at its right, or with zeros in front. -/
def inColumn (format : Raw) (width : Nat) (n : Int) : Raw :=
  let digits := Raw.ofInt n
  let missing := width - digits.length
  if format = "ln".toList then digits ++ List.replicate missing ' '
  else if format = "rz".toList then
    if n < 0 then '-' :: List.replicate missing '0' ++ digits.drop 1
    else List.replicate missing '0' ++ digits
  else List.replicate missing ' ' ++ digits

def nl : Utility := fun arguments => do
  let options ← optionsOf (table "b:d:f:h:i:l:n:ps:v:w:"
    [("body-numbering", .required, 'b'), ("section-delimiter", .required, 'd'),
      ("footer-numbering", .required, 'f'), ("header-numbering", .required, 'h'),
      ("line-increment", .required, 'i'), ("join-blank-lines", .required, 'l'),
      ("number-format", .required, 'n'), ("no-renumber", .none, 'p'),
      ("number-separator", .required, 's'), ("starting-line-number", .required, 'v'),
      ("number-width", .required, 'w')]) arguments
  let integer (letter : Char) (default : Int) (kind : String) : Act Int := do
    match options.value? letter with
    | none => return default
    | some text =>
        match Raw.int? text with
        | some n => return n
        | none => giveUp (("invalid " ++ kind ++ ": ").toList ++ Quoting.shown text)
  let style (letter : Char) (default : Style) (kind : String) : Act Style := do
    match options.value? letter with
    | none => return default
    | some text => styleOf kind text
  let header ← style 'h' .none "header"
  let main ← style 'b' .nonempty "body"
  let footer ← style 'f' .none "footer"
  let start ← integer 'v' 1 "starting line number"
  let increment ← integer 'i' 1 "line number increment"
  let blanks ← integer 'l' 1 "line number of blank lines"
  let width ← integer 'w' 6 "line number field width"
  if width < 1 then
    giveUp ("invalid line number field width: ".toList ++
      Quoting.shown ((options.value? 'w').getD []) ++ ": Numerical result out of range".toList)
  let format := (options.value? 'n').getD "rn".toList
  if ["ln", "rn", "rz"].all (·.toList ≠ format) then
    complain ("invalid line numbering format: ".toList ++ Quoting.shown format)
    giveUpHelpfully
  let separator := (options.value? 's').getD ['\t']
  let delimiter := match options.value? 'd' with
    | some [c] => [c, ':']
    | some text => text
    | none => ['\\', ':']
  let section? (line : Raw) : Option Nat :=
    [1, 2, 3].find? fun count =>
      delimiter ≠ [] && line = (List.replicate count delimiter).flatten
  let step (_ : Bool) (state : Int × Style × Int) (line : Raw) :
      Act ((Int × Style × Int) × Bool) := do
    let (number, current, seen) := state
    match section? line with
    | some count => do
        putLine []
        let current := if count = 3 then header else if count = 2 then main else footer
        return ((if options.has 'p' then number else start, current, 0), true)
    | none => do
        let seen := if line = [] then seen + 1 else 0
        let isNumbered := current.numbers line && (line ≠ [] || seen = blanks || blanks ≤ 1)
        if isNumbered then
          putLine (inColumn format width.toNat number ++ separator ++ line)
          return ((number + increment, current, if line = [] then 0 else seen), true)
        else
          putLine (List.replicate (width.toNat + separator.length) ' ' ++ line)
          return ((number, current, seen), true)
  let (_, status) ← foldFileLines '\n' step (start, main, 0) (orInput options.operands)
  return status

/-- Where the next stop of a tabulator is after a column. -/
def nextStop (stops : List Nat) (column : Nat) : Option Nat :=
  match stops with
  | [] => some ((column / 8 + 1) * 8)
  | [size] => some ((column / size + 1) * size)
  | stops => stops.find? (column < ·)

def stopsIn (text : Raw) : Act (List Nat) := do
  let parts := (text.map fun c => if c = ' ' then ',' else c)
  let mut stops := []
  for part in (Raw.splitOn ',' parts).filter (· ≠ []) do
    match Raw.nat? part with
    | some 0 => giveUp "tab size cannot be 0".toList
    | some n => stops := stops ++ [n]
    | none => giveUp ("tab size contains invalid character(s): ".toList ++
        Quoting.shown (part.dropWhile Char.isDigit))
  return stops

/-- A line with blanks for tabulators, perhaps only for those at its start. -/
def expanded (stops : List Nat) (initial : Bool) (column : Nat) : Raw → Raw
  | [] => []
  | c :: rest =>
      if c = '\t' then
        let stop := (nextStop stops column).getD (column + 1)
        List.replicate (stop - column) ' ' ++ expanded stops initial stop rest
      else if c = '\x08' then c :: expanded stops initial (column - 1) rest
      else if initial && c ≠ ' ' then c :: rest
      else c :: expanded stops initial (column + 1) rest

/-- A line with tabulators for blanks, perhaps only for those at its start.  Blanks that wait for
the next stop are kept; a single blank before a stop stays one. -/
def unexpanded (stops : List Nat) (all : Bool) (column : Nat) (kept : Raw) : Raw → Raw
  | [] => kept
  | c :: rest =>
      if c = ' ' || c = '\t' then
        match nextStop stops column with
        | none => kept ++ c :: (if all then unexpanded stops all (column + 1) [] rest else rest)
        | some stop =>
            if c = '\t' then
              '\t' :: unexpanded stops all stop [] rest
            else if column + 1 = stop then
              let lonely := kept = [] && rest.head? ≠ some ' ' && rest.head? ≠ some '\t'
              let meant := if lonely then [' '] else ['\t']
              meant ++ unexpanded stops all stop [] rest
            else unexpanded stops all (column + 1) (kept ++ [' ']) rest
      else if all then kept ++ c :: unexpanded stops all (column + 1) [] rest
      else kept ++ c :: rest

/-- Write the lines of files, each in another way. -/
def changeLines (change : Raw → Raw) (paths : List Raw) : Act Nat := do
  let step (isEnded : Bool) (_ : Unit) (line : Raw) : Act (Unit × Bool) := do
    put (change line ++ if isEnded then ['\n'] else [])
    return ((), true)
  return (← foldFileLines '\n' step () (orInput paths)).2

/-- Turn tabulators into blanks. -/
def expand : Utility := fun arguments => do
  let options ←
    optionsOf (table "it:" [("initial", .none, 'i'), ("tabs", .required, 't')]) arguments
  let stops ← stopsIn ((options.value? 't').getD [])
  changeLines (expanded stops (options.has 'i') 0) options.operands

/-- Turn blanks into tabulators. -/
def unexpand : Utility := fun arguments => do
  let options ← optionsOf (table "at:" [("all", .none, 'a'), ("first-only", .none, 'f'),
    ("tabs", .required, 't')]) arguments
  let stops ← stopsIn ((options.value? 't').getD [])
  let all := (options.has 'a' || options.has 't') && !options.has 'f'
  changeLines (unexpanded stops all 0 []) options.operands

/-- The prime factors of a number that has none below a divisor. -/
def factorsFrom (divisor : Nat) : Nat → Nat → List Nat
  | 0, n => [n]
  | fuel + 1, n =>
      if n < 2 then []
      else if n < divisor * divisor then [n]
      else if n % divisor = 0 then divisor :: factorsFrom divisor fuel (n / divisor)
      else factorsFrom (if divisor = 2 then 3 else divisor + 2) fuel n

def writeFactors (text : Raw) : Act Nat := do
  let digits := match text with
    | '+' :: digits => digits
    | digits => digits
  match Raw.nat? digits with
  | none => do
      complain (Quoting.shown text ++ " is not a valid positive integer".toList)
      return 1
  | some n => do
      let factors := factorsFrom 2 (UInt64.size.log2 * 100000) n
      putLine (Raw.ofNat n ++ ':' :: factors.flatMap fun factor => ' ' :: Raw.ofNat factor)
      return 0

def factor : Utility := fun arguments => do
  let options ← optionsOf (table "h" [("exponents", .none, 'h')]) arguments
  let numbers ← if options.operands.isEmpty then do
      match ← contentOf ['-'] with
      | .ok text =>
          let spaced := text.map fun c => if c = '\n' || c = '\t' then ' ' else c
          pure ((Raw.splitOn ' ' spaced).filter (· ≠ []))
      | .error error => do
          complainOf "error reading input".toList error
          pure []
    else pure options.operands
  let mut status := 0
  for text in numbers do
    status := max status (← writeFactors text)
  return status

end EditorBridge.Utility.Numbering
