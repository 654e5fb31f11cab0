import EditorBridge.Utility.Quantity

/-!
# Programs that write what they read

All of it, the first or the last part of it, or all of it to several places.
-/
namespace EditorBridge.Utility

open Host Act

structure Display where
  numbers : Bool
  /-- Whether lines without a character count when lines are numbered. -/
  numbersBlank : Bool
  ends : Bool
  tabs : Bool
  unseen : Bool
  /-- Whether of several blank lines only the first is shown. -/
  squeezes : Bool

namespace Display

/-- How options ask for characters to be shown. -/
def ofOptions (options : Options) : Display :=
  let has := options.has
  let all := has 'A'
  ⟨has 'n' || has 'b', !has 'b', has 'E' || has 'e' || all, has 'T' || has 't' || all,
    has 'v' || has 'e' || has 't' || all, has 's'⟩

def isPlain (display : Display) : Bool :=
  !(display.numbers || display.ends || display.tabs || display.unseen || display.squeezes)

/-- A byte that may not be seen, shown by ones that are. -/
def visible (n : Nat) : Raw :=
  if n < 32 then ['^', Char.ofNat (n + 64)]
  else if n < 127 then [Char.ofNat n]
  else ['^', '?']

def character (display : Display) (c : Char) : Raw :=
  if c = '\t' then (if display.tabs then "^I".toList else [c])
  else if !display.unseen then [c]
  else if c.toNat < 128 then visible c.toNat
  else "M-".toList ++ visible (c.toNat - 128)

end Display

/-- Where a text is that is being shown. -/
structure Displaying where
  /-- The number of the last line that got one. -/
  number : Nat
  /-- How many lines have ended since the last character, at most two. -/
  blanks : Nat
  /-- Whether a line has begun. -/
  inLine : Bool
  /-- Whether a carriage return has come that may be part of the end of a line. -/
  isHeld : Bool
  /-- What is to be written, the last piece first. -/
  written : List Raw

namespace Displaying

def write (raw : Raw) (displaying : Displaying) : Displaying :=
  { displaying with written := raw :: displaying.written }

/-- Write the number of the next line. -/
def number' (displaying : Displaying) : Displaying :=
  let n := Raw.ofNat (displaying.number + 1)
  { displaying with
    number := displaying.number + 1
    written := (List.replicate (6 - n.length) ' ' ++ n ++ ['\t']) :: displaying.written }

/-- Write a carriage return that has been held back. -/
def release (shown : Raw) (displaying : Displaying) : Displaying :=
  if displaying.isHeld then { displaying.write shown with isHeld := false } else displaying

def add (display : Display) (displaying : Displaying) (c : Char) : Displaying :=
  if c = '\n' then
    let blanks := if displaying.inLine then 0 else min 2 (displaying.blanks + 1)
    let after := { displaying with blanks, inLine := false }
    if blanks = 2 && display.squeezes then after
    else
      let after :=
        if 0 < blanks && display.numbers && display.numbersBlank then after.number' else after
      (if display.ends then (after.release "^M".toList).write "$\n".toList
        else after.write ['\n'])
  else
    let begun := displaying.release ['\r']
    let begun := if !begun.inLine && display.numbers then begun.number' else begun
    let begun := { begun with inLine := true }
    if c = '\r' && display.ends && !display.unseen then { begun with isHeld := true }
    else begun.write (display.character c)

end Displaying

/-- Whether a descriptor leads to the file that is being written, further on than it is read. -/
def readsItself (descriptor : Nat) : Act Bool := do
  let opened := (← machine).opened
  match ← channel? descriptor, ← channel? 1 with
  | some (.file input), some (.file output) =>
      match opened[input]?, opened[output]? with
      | some input, some output =>
          let size := match (← machine).files.entry? input.location with
            | some (.file content _) => content.length
            | _ => 0
          return input.location = output.location && input.offset < size
      | _, _ => return false
  | _, _ => return false

/-- Write what is read, perhaps shown in other ways. -/
def cat : Utility := fun arguments => do
  let options ← optionsOf (table "benstuvAET"
    [("number-nonblank", .none, 'b'), ("number", .none, 'n'), ("squeeze-blank", .none, 's'),
      ("show-nonprinting", .none, 'v'), ("show-ends", .none, 'E'), ("show-tabs", .none, 'T'),
      ("show-all", .none, 'A')]) arguments
  if (← channel? 1).isNone then
    complainOf "standard output".toList .badDescriptor
    return 1
  let display := Display.ofOptions options
  let mut state : Displaying := ⟨0, 0, false, false, []⟩
  let mut status := 0
  for path in orInput options.operands do
    let before := state
    let action (state : Displaying) (piece : Raw) : Act (Displaying × Bool) := do
      if display.isPlain then
        say piece
        pass
        return (state, true)
      else
        let after := piece.foldl (Displaying.add display) state
        put after.written.reverse.flatten
        return ({ after with written := [] }, true)
    let result ← withInput path fun descriptor => do
      if ← readsItself descriptor then return none
      else return some (← foldInput descriptor action roundLimit before)
    match result with
    | .error error => do
        pass
        complainOfFile path error
        status := 1
    | .ok none => do
        pass
        complain (Quoting.name path ++ ": input file is output file".toList)
        status := 1
    | .ok (some (after, outcome)) => do
        state := after
        match outcome with
        | .ok () => pure ()
        | .error error => do
            pass
            complainOfFile path error
            status := 1
  put (state.release ['\r']).written.flatten
  return status

/-- Write what is read also to files. -/
def tee : Utility := fun arguments => do
  let options ← optionsOf (table "aip" [("append", .none, 'a'), ("ignore-interrupts", .none, 'i'),
    ("output-error", .optional, 'p')]) arguments
  let access : Shell.Access := if options.has 'a' then .append else .write
  let mut descriptors : List (Nat × Raw) := []
  let mut status := 0
  for path in options.operands do
    match ← openPath path access with
    | .ok channel => do
        let descriptor := inputDescriptor + 1 + descriptors.length
        setChannel descriptor (some channel)
        descriptors := descriptors ++ [(descriptor, path)]
    | .error error => do
        complainOfFile path error
        status := 1
  let targets := (1, "standard output".toList) :: descriptors
  let action (state : List (Nat × Raw) × Nat) (piece : Raw) :
      Act ((List (Nat × Raw) × Nat) × Bool) := do
    let mut left := []
    let mut failures := state.2
    for (descriptor, path) in state.1 do
      match ← writeTo descriptor piece with
      | .ok () => left := left ++ [(descriptor, path)]
      | .error error => do
          complainOfFile path error
          failures := 1
    return ((left, failures), !left.isEmpty)
  let ((_, worst), result) ← foldInput 0 action roundLimit (targets, status)
  match result with
  | .ok () => return worst
  | .error error => do
      complainOf "read error".toList error
      return 1

/-- What part of each file is written. -/
structure Extent where
  /-- Whether bytes are counted, and not lines. -/
  ofBytes : Bool
  count : Nat
  /-- Whether the count says what is left out. -/
  isRest : Bool
  terminator : Char

/-- Whether there are headings: when they are asked for, or not asked not to be and there are
several files. -/
def hasHeadings (options : Options) (paths : List Raw) : Bool :=
  match options.lastOf? "qv" with
  | some 'q' => false
  | some _ => true
  | none => 1 < paths.length

/-- The heading of a file, after an empty line unless it is the first. -/
def heading (isFirst : Bool) (path : Raw) : Raw :=
  (if isFirst then [] else ['\n']) ++ "==> ".toList ++ inputName path ++ " <==\n".toList

/-- So many lines from the front of a text, and the rest. -/
def splitLines (terminator : Char) : Nat → Raw → Raw × Raw
  | 0, text => ([], text)
  | _, [] => ([], [])
  | n + 1, text =>
      let line := text.takeWhile (· ≠ terminator)
      match text.drop line.length with
      | [] => (line, [])
      | c :: rest =>
          let (more, rest) := splitLines terminator n rest
          (line ++ c :: more, rest)

/-- How many lines a text has; one without an end counts. -/
def lineCount (terminator : Char) (text : Raw) : Nat :=
  (text.filter (· = terminator)).length +
    (if text = [] || text.getLast? = some terminator then 0 else 1)

def copyBytes (descriptor : Nat) : Nat → Nat → Act (Except SystemError Unit)
  | 0, _ => throw .overdue
  | rounds + 1, count => do
      if count = 0 then return .ok ()
      match ← readFrom descriptor (min count 8192) with
      | .error error => return .error error
      | .ok [] => return .ok ()
      | .ok piece => do
          labourFor piece
          put piece
          copyBytes descriptor rounds (count - piece.length)

def copyLines (terminator : Char) (descriptor : Nat) :
    Nat → Nat → Act (Except SystemError Unit)
  | 0, _ => throw .overdue
  | rounds + 1, count => do
      if count = 0 then return .ok ()
      match ← readFrom descriptor 8192 with
      | .error error => return .error error
      | .ok [] => return .ok ()
      | .ok piece => do
          labourFor piece
          let (lines, rest) := splitLines terminator count piece
          put lines
          let ended := (lines.filter (· = terminator)).length
          if ended = count then
            putBack descriptor rest.length
            return .ok ()
          else copyLines terminator descriptor rounds (count - ended)

/-- Write the first part of what can be read. -/
def copyHead (extent : Extent) (descriptor : Nat) : Act (Except SystemError Unit) := do
  if extent.isRest then
    match ← readAll descriptor with
    | .error error => return .error error
    | .ok text => do
        if extent.ofBytes then put (text.take (text.length - extent.count))
        else
          let count := lineCount extent.terminator text - extent.count
          put (splitLines extent.terminator count text).1
        return .ok ()
  else if extent.ofBytes then copyBytes descriptor roundLimit extent.count
  else copyLines extent.terminator descriptor roundLimit extent.count

/-- Write the last part of what can be read, or what comes after the first one. -/
def copyTail (extent : Extent) (descriptor : Nat) : Act (Except SystemError Unit) := do
  match ← readAll descriptor with
  | .error error => return .error error
  | .ok text => do
      let terminator := extent.terminator
      if extent.isRest then
        let skipped := extent.count - 1
        put (if extent.ofBytes then text.drop skipped else (splitLines terminator skipped text).2)
      else if extent.ofBytes then put (text.drop (text.length - extent.count))
      else put (splitLines terminator (lineCount terminator text - extent.count) text).2
      return .ok ()

def copyParts (copy : Nat → Act (Except SystemError Unit)) (headings : Bool) (paths : List Raw) :
    Act Nat := do
  let mut status := 0
  let mut isFirst := true
  for path in paths do
    let isFirstNow := isFirst
    let result ← withInput path fun descriptor => do
      if headings then put (heading isFirstNow path)
      copy descriptor
    match result with
    | .error error => do
        complainOf ("cannot open ".toList ++ Quoting.betweenQuotes path ++
          " for reading".toList) error
        status := 1
    | .ok outcome => do
        isFirst := false
        match outcome with
        | .ok () => pure ()
        | .error error => do
            complainOf ("error reading ".toList ++ Quoting.betweenQuotes (inputName path)) error
            status := 1
  return status

def countComplaint (ofBytes : Bool) : String :=
  if ofBytes then "invalid number of bytes" else "invalid number of lines"

/-- The extent that an old way of writing a count means: digits and letters behind a sign. -/
def oldExtent? (letters : String) (argument : Raw) : Option (Raw × Raw) :=
  let digits := argument.takeWhile Char.isDigit
  let rest := argument.drop digits.length
  if rest.all letters.toList.contains then some (digits, rest) else none

/-- An argument of the program for first parts in the old way, as options. -/
def headOptions (arguments : List Raw) : Act (List Raw) := do
  match arguments with
  | ('-' :: c :: rest) :: others =>
      if !c.isDigit then return arguments
      let digits := (c :: rest).takeWhile Char.isDigit
      let letters := (c :: rest).drop digits.length
      match letters.find? fun letter => !"cbkmlqvz".toList.contains letter with
      | some letter => misuse ("invalid trailing option -- ".toList ++ [letter])
      | none =>
          let unit := letters.filter "bkm".toList.contains
          let ofBytes := letters.contains 'c' || !unit.isEmpty
          let count := digits ++ (unit.getLast?.map fun letter => [letter]).getD []
          let flags := (letters.filter "qvz".toList.contains).map fun letter => ['-', letter]
          return (if ofBytes then ['-', 'c'] else ['-', 'n']) :: count :: flags ++ others
  | arguments => return arguments

/-- Write the first parts of files. -/
def head : Utility := fun arguments => do
  let refuse (digit : Char) : Act Unit := misuse ("invalid trailing option -- ".toList ++ [digit])
  let options ← optionsOr (refuseDigit refuse) (table "c:n:qvz"
    [("bytes", .required, 'c'), ("lines", .required, 'n'), ("quiet", .none, 'q'),
      ("silent", .none, 'q'), ("verbose", .none, 'v'), ("zero-terminated", .none, 'z')])
    (← headOptions arguments)
  let mut extent : Extent := ⟨false, 10, false, if options.has 'z' then '\x00' else '\n'⟩
  for (letter, value) in options.found do
    if letter = 'c' || letter = 'n' then
      let ofBytes := letter = 'c'
      let value := value.getD []
      let isRest := value.head? = some '-'
      let count ← quantityOf Quantity.sizeLetters (countComplaint ofBytes)
        (if isRest then value.drop 1 else value)
      extent := { extent with ofBytes, count, isRest }
  let paths := orInput options.operands
  let all := extent
  copyParts (copyHead all) (hasHeadings options paths) paths

/-- An argument of the program for last parts in the old way, as options. -/
def tailOptions (arguments : List Raw) : List Raw :=
  let old (sign : Char) (rest : Raw) (others : List Raw) : List Raw :=
    match oldExtent? "bclf" rest with
    | none => arguments
    | some (digits, letters) =>
        let isFew := others.length ≤ 1
        if !isFew || (digits = [] && letters = [] ) || (sign = '-' && digits = []) then arguments
        else
          let ofBytes := letters.contains 'c' || letters.contains 'b'
          let count := (if digits = [] then "10".toList else digits) ++
            (if letters.contains 'b' then ['b'] else [])
          (if ofBytes then ['-', 'c'] else ['-', 'n']) :: (sign :: count) ::
            (if letters.contains 'f' then [['-', 'f']] else []) ++ others
  match arguments with
  | ('+' :: rest) :: others => old '+' rest others
  | ('-' :: rest) :: others => old '-' rest others
  | arguments => arguments

/-- Write the last parts of files. -/
def tail : Utility := fun arguments => do
  let refuse (digit : Char) : Act Unit :=
    giveUp ("option used in invalid context -- ".toList ++ [digit])
  let options ← optionsOr (refuseDigit refuse) (table "c:n:fFqs:vz"
    [("bytes", .required, 'c'), ("lines", .required, 'n'), ("follow", .optional, 'f'),
      ("quiet", .none, 'q'), ("silent", .none, 'q'), ("verbose", .none, 'v'),
      ("zero-terminated", .none, 'z'), ("retry", .none, '\u0110'), ("pid", .required, '\u0111'),
      ("sleep-interval", .required, 's')])
    (tailOptions arguments)
  let mut extent : Extent := ⟨false, 10, false, if options.has 'z' then '\x00' else '\n'⟩
  for (letter, value) in options.found do
    if letter = 'c' || letter = 'n' then
      let ofBytes := letter = 'c'
      let value := value.getD []
      let isRest := value.head? = some '+'
      let count ← quantityOf Quantity.sizeLetters (countComplaint ofBytes)
        (if isRest || value.head? = some '-' then value.drop 1 else value)
      extent := { extent with ofBytes, count, isRest }
  let paths := orInput options.operands
  let all := extent
  let status ← copyParts (copyTail all) (hasHeadings options paths) paths
  if (options.has 'f' || options.has 'F') && paths.any (· ≠ ['-']) then
    pass
    Act.sleep 1000000000000
  return status

end EditorBridge.Utility
