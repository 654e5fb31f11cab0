import EditorBridge.Format.Fraction
import EditorBridge.Utility.Quantity

/-!
# Sorting lines

Lines are compared by keys, each of which is a part of the line and a way to compare; lines whose
keys are equal are compared as a whole.
-/
namespace EditorBridge.Utility.Sorting

open Host Act

inductive Measure where
  | text
  | number
  | fraction
  | human
  | month
  | version
  deriving DecidableEq, Repr

/-- How parts of lines are compared. -/
structure Order where
  measure : Measure
  skipsBlanks : Bool
  /-- Whether the end of the part is counted from behind blanks. -/
  skipsEndBlanks : Bool
  /-- Whether only blanks, letters and digits count. -/
  dictionary : Bool
  folds : Bool
  /-- Whether characters that cannot be seen do not count. -/
  visibleOnly : Bool
  reverses : Bool
  deriving DecidableEq, Repr

def Order.plain : Order := ⟨.text, false, false, false, false, false, false⟩

/-- Whether nothing has been said about an order, apart from its direction. -/
def Order.isPlain (order : Order) : Bool := { order with reverses := false } = Order.plain

/-- The order with what a letter says about it, in a key or for all; in a key, it may say it for the
beginning or for the end of the key. -/
def Order.add? (atEnd : Option Bool) (order : Order) : Char → Option Order
  | 'b' => some
      { order with
        skipsBlanks := order.skipsBlanks || atEnd ≠ some true
        skipsEndBlanks := order.skipsEndBlanks || atEnd ≠ some false }
  | 'd' => some { order with dictionary := true }
  | 'f' => some { order with folds := true }
  | 'i' => some { order with visibleOnly := true }
  | 'r' => some { order with reverses := true }
  | 'n' => some { order with measure := .number }
  | 'g' => some { order with measure := .fraction }
  | 'h' => some { order with measure := .human }
  | 'M' => some { order with measure := .month }
  | 'V' => some { order with measure := .version }
  | _ => none

def compareTexts : Raw → Raw → Ordering
  | [], [] => .eq
  | [], _ => .lt
  | _, [] => .gt
  | a :: as, b :: bs => if a = b then compareTexts as bs else compare a.toNat b.toNat

/-- Characters between fields. -/
def isBlank (c : Char) : Bool := c = ' ' || c = '\t' || c = '\n'

/-- A number at the start of a text: whether it is negative, its digits without leading zeros, those
behind the point without trailing ones, and the rest. -/
def numberAhead (text : Raw) : Bool × Raw × Raw × Raw :=
  let text := text.dropWhile isBlank
  let (negative, text) := match text with
    | '-' :: rest => (true, rest)
    | text => (false, text)
  let whole := text.takeWhile Char.isDigit
  let rest := text.drop whole.length
  let (part, rest) := match rest with
    | '.' :: rest => (rest.takeWhile Char.isDigit, rest.dropWhile Char.isDigit)
    | rest => ([], rest)
  (negative, whole.dropWhile (· = '0'), (part.reverse.dropWhile (· = '0')).reverse, rest)

def compareNumbers (a b : Raw) : Ordering :=
  let (negativeA, wholeA, partA, _) := numberAhead a
  let (negativeB, wholeB, partB, _) := numberAhead b
  let isZero (whole part : Raw) : Bool := whole = [] && part = []
  let magnitudes : Ordering :=
    (compare wholeA.length wholeB.length).then
      ((compareTexts wholeA wholeB).then (compareTexts partA partB))
  let signA := negativeA && !isZero wholeA partA
  let signB := negativeB && !isZero wholeB partB
  match signA, signB with
  | true, true => magnitudes.swap
  | true, false => .lt
  | false, true => .gt
  | false, false => magnitudes

def unitOrder (text : Raw) : Int :=
  let (negative, whole, part, rest) := numberAhead text
  if whole = [] && part = [] then 0
  else
    let order : Int := match rest with
      | 'k' :: _ => 1
      | c :: _ =>
          if Quantity.powers.contains c then (Quantity.powers.findIdx (· = c) : Int) + 1 else 0
      | [] => 0
    if negative then -order else order

/-- The number of a month whose name is at the start of a text. -/
def monthOf (text : Raw) : Nat :=
  let name := ((text.dropWhile isBlank).take 3).map Char.toUpper
  let months := ["JAN", "FEB", "MAR", "APR", "MAY", "JUN", "JUL", "AUG", "SEP", "OCT", "NOV", "DEC"]
  match months.findIdx? fun month => month.toList = name with
  | some index => index + 1
  | none => 0

/-- Numbers with points and exponents: first what is no number, then those that are. -/
def compareFractions (a b : Raw) : Ordering :=
  let rank (text : Raw) (fraction : Format.ReadFraction) : Nat :=
    if fraction.rest = text then 0
    else match fraction.magnitude with
      | .finite _ _ => 3
      | .infinite => if fraction.negative then 2 else 4
      | .undefined => 1
  let x := Format.readFraction a
  let y := Format.readFraction b
  (compare (rank a x) (rank b y)).then
    (match x.magnitude, y.magnitude with
      | .finite n d, .finite m e =>
          let left : Int := (if x.negative then -(n : Int) else n) * e
          let right : Int := (if y.negative then -(m : Int) else m) * d
          compare left right
      | _, _ => .eq)

/-- The order of a character among versions: before everything else comes the tilde, and letters
come before the other characters. -/
def versionRank (c : Char) : Int :=
  if c.isDigit then 0
  else if c.isAlpha then c.toNat
  else if c = '~' then -1
  else c.toNat + 256

/-- Parts of versions that are no digits, up to the next digits. -/
def compareNonDigits : Raw → Raw → Ordering
  | [], [] => .eq
  | a :: as, b :: bs =>
      (compare (versionRank a) (versionRank b)).then (compareNonDigits as bs)
  | a :: _, [] => (compare (versionRank a) 0).then .gt
  | [], b :: _ => (compare 0 (versionRank b)).then .lt

/-- Versions, part by part; the fuel exceeds the number of parts. -/
def compareParts : Nat → Raw → Raw → Ordering
  | 0, _, _ => .eq
  | fuel + 1, a, b =>
      if a = [] && b = [] then .eq
      else
        let text (v : Raw) : Raw := v.takeWhile fun c => !c.isDigit
        let digits (v : Raw) : Raw := (v.drop (text v).length).takeWhile Char.isDigit
        let rest (v : Raw) : Raw := v.drop ((text v).length + (digits v).length)
        let bare (v : Raw) : Raw := (digits v).dropWhile (· = '0')
        (compareNonDigits (text a) (text b)).then
          ((compare (bare a).length (bare b).length).then
            ((compareTexts (bare a) (bare b)).then (compareParts fuel (rest a) (rest b))))

/-- A version without the suffixes that names of files end with; the fuel exceeds their number. -/
def withoutSuffixes : Nat → Raw → Raw
  | 0, text => text
  | fuel + 1, text =>
      let reversed := text.reverse
      let suffix := reversed.takeWhile fun c => c.isAlphanum || c = '~'
      match reversed.drop suffix.length with
      | '.' :: before =>
          let starts := suffix.getLast?.any fun c => c.isAlpha || c = '~'
          if starts && before ≠ [] then withoutSuffixes fuel before.reverse else text
      | _ => text

/-- Versions: first without their suffixes, then with them. -/
def compareVersions (a b : Raw) : Ordering :=
  let special (text : Raw) : Nat :=
    if text = [] then 0 else if text = ['.'] then 1 else if text = ['.', '.'] then 2
    else if text.head? = some '.' then 3 else 4
  let fuel := a.length + b.length + 1
  (compare (special a) (special b)).then
    ((compareParts fuel (withoutSuffixes fuel a) (withoutSuffixes fuel b)).then
      (compareParts fuel a b))

/-- A part of a line: from a character of a field on, up to a character of another field or to its
end. -/
structure Key where
  field : Nat
  character : Nat
  endField : Option Nat
  endCharacter : Nat
  order : Order
  deriving DecidableEq, Repr

/-- How many characters of a line come before a field. -/
def fieldStart (separator : Option Char) : Nat → Raw → Nat
  | 0, _ => 0
  | n + 1, line =>
      match separator with
      | some separator =>
          let field := line.takeWhile (· ≠ separator)
          if field.length < line.length then
            field.length + 1 + fieldStart (some separator) n (line.drop (field.length + 1))
          else line.length
      | none =>
          let blanks := line.takeWhile isBlank
          let field := (line.drop blanks.length).takeWhile fun c => !isBlank c
          let size := blanks.length + field.length
          if size < line.length then size + fieldStart none n (line.drop size) else line.length

def Key.start (separator : Option Char) (key : Key) (line : Raw) : Nat :=
  let start := fieldStart separator key.field line
  let blanks := if key.order.skipsBlanks then ((line.drop start).takeWhile isBlank).length else 0
  min line.length (start + blanks + key.character)

def Key.stop (separator : Option Char) (key : Key) (line : Raw) : Nat :=
  match key.endField with
  | none => line.length
  | some field =>
      if key.endCharacter = 0 then
        match separator with
        | none => fieldStart none (field + 1) line
        | some c =>
            let start := fieldStart separator field line
            start + ((line.drop start).takeWhile (· ≠ c)).length
      else
        let start := fieldStart separator field line
        let blanks :=
          if key.order.skipsEndBlanks then ((line.drop start).takeWhile isBlank).length else 0
        min line.length (start + blanks + key.endCharacter)

def Key.part (separator : Option Char) (key : Key) (line : Raw) : Raw :=
  let start := key.start separator line
  (line.take (key.stop separator line)).drop start

def Order.counting (order : Order) (part : Raw) : Raw :=
  let part := if order.dictionary then
      part.filter fun c => c = ' ' || c = '\t' || c.isAlphanum
    else if order.visibleOnly then part.filter Quoting.isVisible
    else part
  if order.folds then part.map Char.toUpper else part

def Order.compare (order : Order) (a b : Raw) : Ordering :=
  let a := order.counting a
  let b := order.counting b
  let result := match order.measure with
    | .text => compareTexts a b
    | .number => compareNumbers a b
    | .fraction => compareFractions a b
    | .human => (Ord.compare (unitOrder a) (unitOrder b)).then (compareNumbers a b)
    | .month => Ord.compare (monthOf a) (monthOf b)
    | .version => compareVersions a b
  if order.reverses then result.swap else result

structure Arrangement where
  keys : List Key
  separator : Option Char
  /-- Whether equal keys are enough. -/
  isStable : Bool
  isUnique : Bool
  /-- Whether the order of whole lines is reversed. -/
  reverses : Bool

def Arrangement.compareKeys (arrangement : Arrangement) (a b : Raw) : Ordering :=
  arrangement.keys.foldl
    (fun result key => result.then
      (key.order.compare (key.part arrangement.separator a) (key.part arrangement.separator b))) .eq

def Arrangement.compare (arrangement : Arrangement) (a b : Raw) : Ordering :=
  let byKeys := arrangement.compareKeys a b
  if !arrangement.keys.isEmpty && (arrangement.isStable || arrangement.isUnique) then byKeys
  else
    let whole := compareTexts a b
    byKeys.then (if arrangement.reverses then whole.swap else whole)

/-- Give up because a key makes no sense. -/
def badKey {α : Type} (reason : String) (text : Raw) : Act α :=
  giveUp (reason.toList ++ ": invalid field specification ".toList ++ Quoting.shown text)

/-- The number at the start of a text, and what comes after it. -/
def countAhead (reason : String) (text : Raw) : Act (Nat × Raw) := do
  let digits := text.takeWhile Char.isDigit
  match Raw.nat? digits with
  | some n => return (n, text.drop digits.length)
  | none => giveUp (reason.toList ++ ": invalid count at start of ".toList ++ Quoting.shown text)

/-- The letters of an order at the start of a text, and what comes after them. -/
def orderAhead (atEnd : Bool) (order : Order) : Raw → Order × Raw
  | [] => (order, [])
  | c :: rest =>
      match order.add? (some atEnd) c with
      | some order => orderAhead atEnd order rest
      | none => (order, c :: rest)

def keyOf (text : Raw) : Act Key := do
  let (field, rest) ← countAhead "invalid number at field start" text
  if field = 0 then badKey "field number is zero" text
  let (character, rest) ← match rest with
    | '.' :: rest => do
        let (n, rest) ← countAhead "invalid number after '.'" rest
        if n = 0 then badKey "character offset is zero" text
        pure (n - 1, rest)
    | rest => pure (0, rest)
  let (order, rest) := orderAhead false .plain rest
  match rest with
  | [] => return ⟨field - 1, character, none, 0, order⟩
  | ',' :: rest => do
      let (endField, rest) ← countAhead "invalid number after ','" rest
      if endField = 0 then badKey "field number is zero" text
      let (endCharacter, rest) ← match rest with
        | '.' :: rest => countAhead "invalid number after '.'" rest
        | rest => pure (0, rest)
      let (order, rest) := orderAhead true order rest
      if rest ≠ [] then badKey "stray character in field spec" text
      return ⟨field - 1, character, some (endField - 1), endCharacter, order⟩
  | _ => badKey "stray character in field spec" text

/-- The lines of files; give up if one cannot be read. -/
def allLines (terminator : Char) : List Raw → Act (List Raw)
  | [] => return []
  | path :: rest => do
      match ← withInput path readAll with
      | .error error => do
          complainOf ("cannot read: ".toList ++ Quoting.name path) error
          throw .failed
      | .ok (.error error) => do
          complainOf ("read failed: ".toList ++ Quoting.name path) error
          throw .failed
      | .ok (.ok text) => return (linesOf terminator text).1 ++ (← allLines terminator rest)

/-- The first line that is not in order, with its number. -/
def disorder? (isWrong : Raw → Raw → Bool) : Nat → List Raw → Option (Nat × Raw)
  | n, a :: b :: rest =>
      if isWrong a b then some (n + 1, b) else disorder? isWrong (n + 1) (b :: rest)
  | _, _ => none

/-- Lines of which neighbours are different. -/
def unrepeated (same : Raw → Raw → Bool) : List Raw → List Raw
  | [] => []
  | line :: rest => line :: unrepeatedAfter line rest
where
  /-- Lines of which neighbours are different, and the first from a given one. -/
  unrepeatedAfter (before : Raw) : List Raw → List Raw
    | [] => []
    | line :: rest =>
        if same before line then unrepeatedAfter before rest
        else line :: unrepeatedAfter line rest

def separatorOf (text : Raw) : Act Char := do
  match text with
  | [] => giveUp "empty tab".toList
  | [c] => return c
  | ['\\', '0'] => return '\x00'
  | text => giveUp ("multi-character tab ".toList ++ Quoting.shown text)

def ofOptions (options : Options) : Act Arrangement := do
  let order := options.found.foldl
    (fun order (letter, value) =>
      if value.isSome then order else (order.add? none letter).getD order)
    Order.plain
  let keys ← ((options.found.filter (·.1 = 'k')).map fun option => option.2.getD []).mapM keyOf
  let keys := keys.map fun key => if key.order = .plain then { key with order } else key
  let keys := if keys.isEmpty && !order.isPlain then [⟨0, 0, none, 0, order⟩] else keys
  let separator ← match options.value? 't' with
    | some text => pure (some (← separatorOf text))
    | none => pure none
  return ⟨keys, separator, options.has 's', options.has 'u', order.reverses⟩

def sort : Utility := fun arguments => do
  let options ← optionsOf (table "bcCdfghik:mMno:rRsS:t:T:uVy:z"
    [("ignore-leading-blanks", .none, 'b'), ("check", .optional, 'c'),
      ("dictionary-order", .none, 'd'), ("ignore-case", .none, 'f'),
      ("general-numeric-sort", .none, 'g'), ("human-numeric-sort", .none, 'h'),
      ("ignore-nonprinting", .none, 'i'), ("key", .required, 'k'), ("merge", .none, 'm'),
      ("month-sort", .none, 'M'), ("numeric-sort", .none, 'n'), ("output", .required, 'o'),
      ("reverse", .none, 'r'), ("random-sort", .none, 'R'), ("stable", .none, 's'),
      ("buffer-size", .required, 'S'), ("field-separator", .required, 't'),
      ("temporary-directory", .required, 'T'), ("unique", .none, 'u'), ("version-sort", .none, 'V'),
      ("zero-terminated", .none, 'z'), ("parallel", .required, '\u0110')]) arguments
  let arrangement ← ofOptions options
  let terminator := if options.has 'z' then '\x00' else '\n'
  let paths := orInput options.operands
  match options.lastOf? "cC" with
  | some letter => do
      match paths with
      | _ :: extra :: _ =>
          giveUp ("extra operand ".toList ++ Quoting.shown extra ++ " not allowed with -".toList ++
            [letter])
      | _ => pure ()
      let lines ← allLines terminator paths
      let isWrong (a b : Raw) : Bool :=
        let result := arrangement.compare a b
        result = .gt || (arrangement.isUnique && result = .eq)
      match disorder? isWrong 1 lines with
      | none => return 0
      | some (n, line) => do
          if letter = 'c' && options.value? 'c' ≠ some "quiet".toList &&
              options.value? 'c' ≠ some "silent".toList then
            complain (Quoting.name (paths.headD []) ++ ':' :: Raw.ofNat n ++
              ": disorder: ".toList ++ line)
          throw (.exited 1)
  | none => do
      let lines ← allLines terminator paths
      let sorted := lines.mergeSort fun a b => arrangement.compare a b ≠ .gt
      let same (a b : Raw) : Bool :=
        (if arrangement.keys.isEmpty then compareTexts a b else arrangement.compareKeys a b) = .eq
      let sorted := if arrangement.isUnique then unrepeated same sorted else sorted
      match options.value? 'o' with
      | some path =>
          match ← openPath path .write with
          | .ok channel => setChannel 1 (some channel)
          | .error error => do
              complainOf ("open failed: ".toList ++ Quoting.name path) error
              throw .failed
      | none => pure ()
      for line in sorted do
        put (line ++ [terminator])
      return 0

end EditorBridge.Utility.Sorting
