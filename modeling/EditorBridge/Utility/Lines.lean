import EditorBridge.Utility.Sorting

/-!
# Lines next to each other

Repeated lines are counted or left out, lines are turned round or numbered, and sorted files are
compared.
-/
namespace EditorBridge.Utility

open Host Act

structure Comparison where
  skippedFields : Nat
  skippedCharacters : Nat
  limit : Option Nat
  folds : Bool

namespace Comparison

/-- A line without some fields at its start. -/
def withoutFields : Nat → Raw → Raw
  | 0, line => line
  | n + 1, line =>
      let line := line.dropWhile Sorting.isBlank
      withoutFields n (line.dropWhile fun c => !Sorting.isBlank c)

def part (comparison : Comparison) (line : Raw) : Raw :=
  let part := (withoutFields comparison.skippedFields line).drop comparison.skippedCharacters
  let part := match comparison.limit with
    | some limit => part.take limit
    | none => part
  if comparison.folds then part.map Char.toUpper else part

end Comparison

/-- Lines put together with those that are like them, in groups of which the last comes first. -/
def groupsOf (comparison : Comparison) (lines : List Raw) : List (List Raw) :=
  let add (groups : List (List Raw)) (line : Raw) : List (List Raw) :=
    match groups with
    | (first :: others) :: rest =>
        if comparison.part first = comparison.part line then (first :: others ++ [line]) :: rest
        else [line] :: groups
    | groups => [line] :: groups
  (lines.foldl add []).reverse

/-- A number of an option; give up if it is none. -/
def optionNumber (complaint : String) (text : Raw) : Act Nat := do
  match Quantity.read "" text with
  | .ok n => return n
  | .error .tooGreat => return UInt64.size
  | .error .invalid => giveUp (text ++ (": " ++ complaint).toList)

def chosenWord (option : String) (words : List String) (value : Raw) : Act String := do
  match words.filter fun word => value.isPrefixOf word.toList with
  | [word] => return word
  | found =>
      match found.find? fun word => word.toList = value with
      | some word => return word
      | none => misuse ((if found.isEmpty then "invalid" else "ambiguous").toList ++
          " argument ".toList ++ Quoting.shown value ++ " for ".toList ++
          Quoting.shown option.toList ++ "\nValid arguments are:".toList ++
          words.flatMap fun word => ("\n  - '" ++ word ++ "'").toList)

/-- Options for skipped fields and characters in the old way of writing them. -/
def uniqOptions (arguments : List Raw) : List Raw :=
  arguments.map fun argument => match argument with
    | '-' :: c :: rest => if c.isDigit then "-f".toList ++ c :: rest else argument
    | '+' :: c :: rest => if c.isDigit then "-s".toList ++ c :: rest else argument
    | argument => argument

def separated (method : String) (terminator : Char) (groups : List (List Raw)) : Raw :=
  let bodies := groups.map fun group => group.flatMap fun line => line ++ [terminator]
  match method with
  | "prepend" => bodies.flatMap fun body => terminator :: body
  | "append" => bodies.flatMap fun body => body ++ [terminator]
  | "both" =>
      if bodies.isEmpty then [] else terminator :: bodies.flatMap fun body => body ++ [terminator]
  | "separate" => Raw.join [terminator] bodies
  | _ => bodies.flatten

/-- Leave repeated lines out, or count them, or show only those that are or are not repeated. -/
def uniq : Utility := fun arguments => do
  let options ← optionsOf (table "cdDf:is:uw:z"
    [("count", .none, 'c'), ("repeated", .none, 'd'), ("all-repeated", .optional, 'D'),
      ("group", .optional, 'g'), ("skip-fields", .required, 'f'), ("ignore-case", .none, 'i'),
      ("skip-chars", .required, 's'), ("unique", .none, 'u'), ("check-chars", .required, 'w'),
      ("zero-terminated", .none, 'z')]) (uniqOptions arguments)
  let number (letter : Char) (complaint : String) : Act (Option Nat) := do
    match options.value? letter with
    | some text => return some (← optionNumber complaint text)
    | none => return none
  let comparison : Comparison :=
    ⟨(← number 'f' "invalid number of fields to skip").getD 0,
      (← number 's' "invalid number of bytes to skip").getD 0,
      ← number 'w' "invalid number of bytes to compare", options.has 'i'⟩
  let all ← match options.value? 'D' with
    | some value => chosenWord "--all-repeated" ["none", "prepend", "separate"] value
    | none => pure "none"
  let grouping ← match options.value? 'g' with
    | some value => chosenWord "--group" ["prepend", "append", "separate", "both"] value
    | none => pure "separate"
  if options.has 'g' && "cdDu".toList.any options.has then
    misuse "--group is mutually exclusive with -c/-d/-D/-u".toList
  if options.has 'c' && options.has 'D' then
    misuse "printing all duplicated lines and repeat counts is meaningless".toList
  let terminator := if options.has 'z' then '\x00' else '\n'
  match options.operands with
  | _ :: _ :: extra :: _ => extraOperand extra
  | _ => pure ()
  let input := options.operands.headD ['-']
  let text ← match ← withInput input readAll with
    | .error error => do
        complainOfFile input error
        throw .failed
    | .ok (.error error) => do
        complainOf ("error reading ".toList ++ Quoting.shown input) error
        throw .failed
    | .ok (.ok text) => pure text
  match options.operands with
  | _ :: output :: _ =>
      if output ≠ ['-'] then
        match ← openPath output .write with
        | .ok channel => setChannel 1 (some channel)
        | .error error => do
            complainOfFile output error
            throw .failed
  | _ => pure ()
  let groups := groupsOf comparison (linesOf terminator text).1
  if options.has 'g' then put (separated grouping terminator groups)
  else if options.has 'D' then
    let chosen := if options.has 'u' then [] else groups.filter fun group => 1 < group.length
    put (separated all terminator chosen)
  else
    let repeated := options.has 'd'
    let single := options.has 'u'
    for group in groups do
      let isRepeated := 1 < group.length
      if (if isRepeated then !single else !repeated) then
        let count := Raw.ofNat group.length
        let before := if options.has 'c' then
          List.replicate (7 - count.length) ' ' ++ count ++ [' '] else []
        put (before ++ group.headD [] ++ [terminator])
  return 0

/-- The records of a text with their separator behind them or before them, in their order; the fuel
exceeds the length of the text. -/
def recordsOf (separator : Raw) (before : Bool) : Nat → Raw → Raw → List Raw
  | 0, begun, text => [begun.reverse ++ text]
  | _, begun, [] => if begun = [] then [] else [begun.reverse]
  | fuel + 1, begun, c :: rest =>
      if separator ≠ [] && separator.isPrefixOf (c :: rest) then
        let after := (c :: rest).drop separator.length
        if before then
          (if begun = [] then [] else [begun.reverse]) ++
            recordsOf separator before fuel separator.reverse after
        else (begun.reverse ++ separator) :: recordsOf separator before fuel [] after
      else recordsOf separator before fuel (c :: begun) rest

/-- Write the lines of files in reverse order. -/
def tac : Utility := fun arguments => do
  let options ← optionsOf (table "brs:" [("before", .none, 'b'), ("regex", .none, 'r'),
    ("separator", .required, 's')]) arguments
  let separator := match options.value? 's' with
    | none => ['\n']
    | some [] => ['\x00']
    | some separator => separator
  let mut status := 0
  for path in orInput options.operands do
    match ← withInput path readAll with
    | .error error => do
        complainOf ("failed to open ".toList ++ Quoting.betweenQuotes path ++
          " for reading".toList) error
        status := 1
    | .ok (.error error) => do
        complainOf (Quoting.name path ++ ": read error".toList) error
        status := 1
    | .ok (.ok text) =>
        put (recordsOf separator (options.has 'b') (text.length + 1) [] text).reverse.flatten
  return status

/-- Write lines with their characters in reverse order. -/
def rev : Utility := fun arguments => do
  let options ← optionsOf (table "0Vh" [("zero", .none, '0')]) arguments
  let terminator := if options.has '0' then '\x00' else '\n'
  let mut status := 0
  for path in orInput options.operands do
    let action (ended : Bool) (_ : Unit) (line : Raw) : Act (Unit × Bool) := do
      put (line.reverse ++ if ended then [terminator] else [])
      return ((), true)
    match ← withInput path fun descriptor => foldLines terminator descriptor action () with
    | .ok (_, .ok ()) => pure ()
    | .ok (_, .error error) => do
        complainOf path error
        status := 1
    | .error error => do
        complainOf ("cannot open ".toList ++ path) error
        status := 1
  return status

/-- A line of one of two files, or of both. -/
inductive Side where
  | first
  | second
  | both
  deriving DecidableEq, Repr

/-- The lines of two sorted files in one order; the fuel exceeds the number of lines. -/
def sides : Nat → List Raw → List Raw → List (Side × Raw)
  | 0, _, _ => []
  | _, [], [] => []
  | fuel + 1, a :: as, [] => (.first, a) :: sides fuel as []
  | fuel + 1, [], b :: bs => (.second, b) :: sides fuel [] bs
  | fuel + 1, a :: as, b :: bs =>
      match Sorting.compareTexts a b with
      | .lt => (.first, a) :: sides fuel as (b :: bs)
      | .gt => (.second, b) :: sides fuel (a :: as) bs
      | .eq => (.both, a) :: sides fuel as bs

def isSorted (lines : List Raw) : Bool :=
  (Sorting.disorder? (fun a b => Sorting.compareTexts a b = .gt) 1 lines).isNone

/-- Compare two sorted files line by line. -/
def comm : Utility := fun arguments => do
  let options ← optionsOf (table "123z"
    [("check-order", .none, 'k'), ("nocheck-order", .none, 'n'),
      ("output-delimiter", .required, 'o'), ("total", .none, 't'),
      ("zero-terminated", .none, 'z')]) arguments
  let terminator := if options.has 'z' then '\x00' else '\n'
  let delimiter := match options.value? 'o' with
    | some [] => ['\x00']
    | some delimiter => delimiter
    | none => ['\t']
  match options.operands with
  | [first, second] => do
      let read (path : Raw) : Act (List Raw) := do
        match ← contentOf path with
        | .ok text => return (linesOf terminator text).1
        | .error error => do
            complainOfFile path error
            throw .failed
      let a ← read first
      let b ← read second
      let lines := sides (a.length + b.length + 1) a b
      let hidden (letter : Char) : Bool := options.has letter
      let indent (columns : List Char) : Raw :=
        (columns.filter fun letter => !hidden letter).flatMap fun _ => delimiter
      for (side, line) in lines do
        match side with
        | .first => if !hidden '1' then put (line ++ [terminator])
        | .second => if !hidden '2' then put (indent ['1'] ++ line ++ [terminator])
        | .both => if !hidden '3' then put (indent ['1', '2'] ++ line ++ [terminator])
      if options.has 't' then
        let count (side : Side) : Raw := Raw.ofNat (lines.filter (·.1 = side)).length
        put (Raw.join delimiter [count .first, count .second, count .both, "total".toList] ++
          [terminator])
      let mut status := 0
      if !options.has 'n' then
        for (lines, n) in [(a, "1"), (b, "2")] do
          if !isSorted lines then
            complain ("file ".toList ++ n.toList ++ " is not in sorted order".toList)
            status := 1
        if status = 1 then complain "input is not in sorted order".toList
      return status
  | operands =>
      match operands with
      | _ :: _ :: extra :: _ => extraOperand extra
      | operands => missingOperand operands

end EditorBridge.Utility
