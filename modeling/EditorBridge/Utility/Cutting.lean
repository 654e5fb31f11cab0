import EditorBridge.Utility.Basic

/-!
# Cutting lines

Lines are cut down to some of their bytes or fields, broken where they are too wide, or put side by
side.
-/
namespace EditorBridge.Utility

open Host Act

/-- A range of numbers from one on, perhaps without an end. -/
structure Range where
  first : Nat
  last : Option Nat
  deriving DecidableEq, Repr

def Range.has (range : Range) (n : Nat) : Bool :=
  range.first ≤ n && range.last.all (n ≤ ·)

inductive Counted where
  | bytes
  | fields
  deriving DecidableEq, Repr

/-- Give up because something in a list is no number. -/
def noNumber {α : Type} (counted : Counted) (text : Raw) : Act α :=
  misuse ((match counted with
    | .bytes => "invalid byte/character position "
    | .fields => "invalid field value ").toList ++ Quoting.shown text)

/-- Give up because numbers start from one. -/
def fromOne {α : Type} (counted : Counted) : Act α :=
  misuse (match counted with
    | .bytes => "byte/character positions are numbered from 1"
    | .fields => "fields are numbered from 1").toList

def numberIn (counted : Counted) (digits : Raw) : Act Nat := do
  match Raw.nat? digits with
  | none => noNumber counted digits
  | some n =>
      if UInt64.size - 1 ≤ n then
        misuse ((match counted with
          | .bytes => "byte/character offset "
          | .fields => "field number ").toList ++ Quoting.shown digits ++ " is too large".toList)
      else if n = 0 then fromOne counted
      else return n

def rangeOf (counted : Counted) (text : Raw) : Act Range := do
  let range : Act Range := match counted with
    | .bytes => misuse "invalid byte or character range".toList
    | .fields => misuse "invalid field range".toList
  match Raw.splitOn '-' text with
  | [[]] => fromOne counted
  | [digits] => do
      let n ← numberIn counted digits
      return ⟨n, some n⟩
  | [[], []] => misuse "invalid range with no endpoint: -".toList
  | [[], last] => return ⟨1, some (← numberIn counted last)⟩
  | [first, []] => return ⟨← numberIn counted first, none⟩
  | [first, last] => do
      let first ← numberIn counted first
      let last ← numberIn counted last
      if last < first then misuse "invalid decreasing range".toList
      return ⟨first, some last⟩
  | _ => range

/-- Ranges in their order, those that overlap being one. -/
def mergeRanges : List Range → List Range
  | [] => []
  | range :: rest =>
      match mergeRanges rest with
      | [] => [range]
      | next :: others =>
          if range.last.all (next.first ≤ ·) then
            let last := match range.last, next.last with
              | some a, some b => some (max a b)
              | _, _ => none
            ⟨range.first, last⟩ :: others
          else range :: next :: others

/-- What is left out by ranges in their order, from a number on. -/
def complementFrom (first : Nat) : List Range → List Range
  | [] => [⟨first, none⟩]
  | range :: rest =>
      let before := if first < range.first then [⟨first, some (range.first - 1)⟩] else []
      match range.last with
      | none => before
      | some last => before ++ complementFrom (last + 1) rest

def rangesOf (counted : Counted) (complement : Bool) (text : Raw) : Act (List Range) := do
  let parts := Raw.splitOn ',' (text.map fun c => if c = ' ' || c = '\t' then ',' else c)
  let ranges ← parts.mapM (rangeOf counted)
  let sorted := mergeRanges (ranges.mergeSort fun a b => a.first ≤ b.first)
  return if complement then complementFrom 1 sorted else sorted

def rangeStart? (ranges : List Range) (n : Nat) : Option Nat :=
  (ranges.find? (·.has n)).map (·.first)

def selectBytes (ranges : List Range) (between : Option Raw) (line : Raw) : Raw :=
  let selected := (line.zipIdx 1).filterMap fun (c, n) =>
    (rangeStart? ranges n).map fun start => (c, n, start)
  let (text, _) := selected.foldl
    (fun (text, isFirst) (c, n, start) =>
      let gap := match between with
        | some between => if n = start && !isFirst then between else []
        | none => []
      (c :: gap.reverse ++ text, false)) (([] : Raw), true)
  text.reverse

/-- The selected fields of a line; a line without a delimiter is one field, and left whole. -/
def selectFields (ranges : List Range) (delimiter : Char) (between : Raw) (onlyDelimited : Bool)
    (line : Raw) : Option Raw :=
  if !line.contains delimiter then if onlyDelimited then none else some line
  else
    let fields := (Raw.splitOn delimiter line).zipIdx 1
    some (Raw.join between ((fields.filter fun (_, n) => ranges.any (·.has n)).map (·.1)))

/-- Cut lines down to some of their bytes or fields. -/
def cut : Utility := fun arguments => do
  let options ← optionsOf (table "b:c:d:f:nsz"
    [("bytes", .required, 'b'), ("characters", .required, 'c'), ("fields", .required, 'f'),
      ("delimiter", .required, 'd'), ("only-delimited", .none, 's'),
      ("output-delimiter", .required, 'o'), ("complement", .none, 'k'),
      ("zero-terminated", .none, 'z')]) arguments
  let lists := options.found.filter fun option => "bcf".toList.contains option.1
  if 1 < lists.length then misuse "only one list may be specified".toList
  match options.value? 'd' with
  | some (_ :: _ :: _) => misuse "the delimiter must be a single character".toList
  | _ => pure ()
  match lists with
  | [] => misuse "you must specify a list of bytes, characters, or fields".toList
  | (letter, list) :: _ => do
      let counted : Counted := if letter = 'f' then .fields else .bytes
      if counted = .bytes then
        if options.has 'd' then
          misuse "an input delimiter may be specified only when operating on fields".toList
        if options.has 's' then
          misuse ("suppressing non-delimited lines makes sense\n\tonly when operating on " ++
            "fields").toList
      let ranges ← rangesOf counted (options.has 'k') (list.getD [])
      let terminator := if options.has 'z' then '\x00' else '\n'
      let delimiter := match options.value? 'd' with
        | some (c :: _) => c
        | some [] => '\x00'
        | none => '\t'
      let between := options.value? 'o'
      let action (_ : Bool) (_ : Unit) (line : Raw) : Act (Unit × Bool) := do
        let selected := match counted with
          | .bytes => some (selectBytes ranges between line)
          | .fields =>
              selectFields ranges delimiter (between.getD [delimiter]) (options.has 's') line
        match selected with
        | some text => put (text ++ [terminator])
        | none => pure ()
        return ((), true)
      return (← foldFileLines terminator action () (orInput options.operands)).2

structure Folding where
  width : Nat
  atBlanks : Bool
  ofBytes : Bool

namespace Folding

def advance (folding : Folding) (column : Nat) (c : Char) : Nat :=
  if folding.ofBytes then column + 1
  else match c with
    | '\x08' => column - 1
    | '\r' => 0
    | '\t' => column + (8 - column % 8)
    | _ => column + 1

/-- Put a character behind a line, which is given from its end; what is written comes first, from
its end.  The fuel is more than a line can be broken. -/
def place (folding : Folding) (c : Char) : Nat → Raw → Nat → Raw → Raw × Nat × Raw
  | 0, line, column, written => (c :: line, column, written)
  | fuel + 1, line, column, written =>
      let next := folding.advance column c
      if next ≤ folding.width then (c :: line, next, written)
      else
        let tail := line.takeWhile fun c => c ≠ ' ' && c ≠ '\t'
        if folding.atBlanks && tail.length < line.length then
          let head := line.drop tail.length
          let column := tail.reverse.foldl folding.advance 0
          folding.place c fuel tail column ('\n' :: head ++ written)
        else if line = [] then (c :: line, next, written)
        else folding.place c fuel [] 0 ('\n' :: line ++ written)

/-- Go on with a character: the line and the column, and what is to be written from its end. -/
def add (folding : Folding) (state : Raw × Nat × Raw) (c : Char) : Raw × Nat × Raw :=
  let (line, column, written) := state
  if c = '\n' then ([], 0, '\n' :: line ++ written)
  else folding.place c (line.length + 3) line column written

end Folding

/-- Options for a width in an old way of writing it. -/
def withOldWidth (arguments : List Raw) : List Raw :=
  arguments.map fun argument => match argument with
    | '-' :: c :: rest => if c.isDigit then "-w".toList ++ c :: rest else argument
    | argument => argument

/-- Break lines that are too wide. -/
def fold : Utility := fun arguments => do
  let options ← optionsOf (table "bsw:"
    [("bytes", .none, 'b'), ("spaces", .none, 's'), ("width", .required, 'w')])
    (withOldWidth arguments)
  let width ← match options.value? 'w' with
    | none => pure 80
    | some text =>
        match Raw.nat? text with
        | some n =>
            if n = 0 then
              giveUp ("invalid number of columns: ".toList ++ Quoting.shown text ++
                ": Numerical result out of range".toList)
            else pure n
        | none => giveUp ("invalid number of columns: ".toList ++ Quoting.shown text)
  let folding : Folding := ⟨width, options.has 's', options.has 'b'⟩
  let mut status := 0
  for path in orInput options.operands do
    let action (state : Raw × Nat) (piece : Raw) : Act ((Raw × Nat) × Bool) := do
      let (line, column, written) := piece.foldl folding.add (state.1, state.2, [])
      put written.reverse
      return ((line, column), true)
    match ← withInput path fun descriptor => foldInput descriptor action roundLimit ([], 0) with
    | .error error => do
        complainOfFile path error
        status := 1
    | .ok ((line, _), outcome) => do
        put line.reverse
        match outcome with
        | .ok () => pure ()
        | .error error => do
            complainOfFile path error
            status := 1
  return status

/-- The delimiters that a list is; nothing stands for none. -/
def delimitersOf : Raw → List (Option Char)
  | [] => []
  | '\\' :: c :: rest =>
      (match c with
        | '0' => none
        | 'b' => some '\x08'
        | 'f' => some '\x0c'
        | 'n' => some '\n'
        | 'r' => some '\r'
        | 't' => some '\t'
        | 'v' => some '\x0b'
        | c => some c) :: delimitersOf rest
  | c :: rest => some c :: delimitersOf rest

/-- Lines side by side, as long as some file has one; the fuel exceeds the number of lines. -/
def pasted (delimiter : Nat → Raw) (terminator : Char) : Nat → List (List Raw) → Raw
  | 0, _ => []
  | fuel + 1, files =>
      if files.all (·.isEmpty) then []
      else
        let line := (files.zipIdx.map fun (lines, index) =>
          (lines.headD []) ++ (if index + 1 < files.length then delimiter index else [])).flatten
        line ++ terminator :: pasted delimiter terminator fuel (files.map (·.drop 1))

/-- The lines of one file after another, with delimiters between them. -/
def joinedLines (delimiter : Nat → Raw) (terminator : Char) (lines : List Raw) : Raw :=
  (lines.zipIdx.map fun (line, index) =>
    line ++ (if index + 1 < lines.length then delimiter index else [])).flatten ++ [terminator]

/-- Every so many-th line from a number on: what is read by one of several who take turns. -/
def everyOther (count index : Nat) (lines : List Raw) : List Raw :=
  (lines.zipIdx.filter fun (_, n) => n % count = index).map (·.1)

/-- Put the lines of files side by side, or those of each file one after another. -/
def paste : Utility := fun arguments => do
  let options ← optionsOf (table "d:sz"
    [("delimiters", .required, 'd'), ("serial", .none, 's'), ("zero-terminated", .none, 'z')])
    arguments
  let list := (options.value? 'd').getD ['\t']
  if (list.reverse.takeWhile (· = '\\')).length % 2 = 1 then
    giveUp ("delimiter list ends with an unescaped backslash: ".toList ++ list)
  let delimiters := delimitersOf list
  let delimiter (index : Nat) : Raw :=
    if delimiters.isEmpty then []
    else ((delimiters[index % delimiters.length]?).getD none).toList
  let terminator := if options.has 'z' then '\x00' else '\n'
  let serial := options.has 's'
  let paths := orInput options.operands
  let sharers := (paths.filter (· = ['-'])).length
  let mut shared : Option (List Raw) := none
  let mut sharing := 0
  let mut files : List (List Raw) := []
  let mut status := 0
  for path in paths do
    let known := if path = ['-'] && !serial then shared else none
    let content ← match known with
      | some lines => pure (.ok lines)
      | none => do pure ((← contentOf path).map fun text => (linesOf terminator text).1)
    match content with
    | .ok lines =>
        if serial then put (joinedLines delimiter terminator lines)
        else if path = ['-'] then
          shared := some lines
          files := files ++ [everyOther sharers sharing lines]
          sharing := sharing + 1
        else files := files ++ [lines]
    | .error error => do
        complainOfFile path error
        status := 1
        if !serial then return 1
  if !serial then
    let longest := (files.map List.length).foldl max 0
    put (pasted delimiter terminator (longest + 1) files)
  return status

end EditorBridge.Utility
