import EditorBridge.Utility.Files

/-!
# Comparing files

The first byte in which two files differ, and the lines that one has to take out and put in to make
one file of the other.  As many lines as possible stay, and those that stay come as early as
possible.
-/
namespace EditorBridge.Utility.Comparing

open Host Act

/-- Give up because of the way the program is called. -/
def misuse {α : Type} (text : Raw) : Act α := do
  complain text
  complain ("Try '".toList ++ (← task).name ++ " --help' for more information.".toList)
  throw (.exited 2)

def optionsOf (table : OptionTable) (arguments : List Raw) : Act Options := do
  match table.take arguments with
  | .ok options => return options
  | .error problem => misuse problem.message

/-- Both operands, of which there have to be two. -/
def bothOf (options : Options) : Act (Raw × Raw) := do
  match options.operands with
  | [] => misuse ("missing operand after ".toList ++ Quoting.shown (← task).name)
  | [only] => misuse ("missing operand after ".toList ++ Quoting.shown only)
  | [first, second] => return (first, second)
  | _ :: _ :: extra :: _ => misuse ("extra operand ".toList ++ Quoting.shown extra)

/-- A file with all that can be read from it. -/
def contentIn (path : Raw) : Act Raw := do
  match ← contentOf path with
  | .ok content => return content
  | .error error => do
      complain (path ++ ": ".toList ++ reason error)
      throw (.exited 2)

/-- Bytes in which two texts differ, with their places counted from one. -/
def differences : Nat → Raw → Raw → List (Nat × Char × Char)
  | place, a :: as, b :: bs =>
      if a = b then differences (place + 1) as bs
      else (place, a, b) :: differences (place + 1) as bs
  | _, _, _ => []

/-- A number to the base of eight in a column. -/
def octal (n : Nat) : Raw :=
  let digits := Nat.toDigits 8 n
  List.replicate (3 - digits.length) ' ' ++ digits

def visible (c : Char) : Raw :=
  let n := c.toNat
  let low (n : Nat) : Raw :=
    if n < 32 then ['^', Char.ofNat (n + 64)] else if n = 127 then "^?".toList else [Char.ofNat n]
  if n < 128 then low n else "M-".toList ++ low (n - 128)

def cmp : Utility := fun arguments => do
  let options ← optionsOf (table "bi:ln:sv" [("print-bytes", .none, 'b'),
    ("ignore-initial", .required, 'i'), ("verbose", .none, 'l'), ("bytes", .required, 'n'),
    ("quiet", .none, 's'), ("silent", .none, 's')]) arguments
  let (first, second) ← match options.operands with
    | [only] => pure (only, ['-'])
    | _ => bothOf options
  let skipped := ((options.value? 'i').bind Raw.nat?).getD 0
  let cut (content : Raw) : Raw :=
    let rest := content.drop skipped
    match (options.value? 'n').bind Raw.nat? with
    | some most => rest.take most
    | none => rest
  let a := cut (← contentIn first)
  let b := cut (← contentIn second)
  let quiet := options.has 's'
  let found := differences 1 a b
  let common := min a.length b.length
  let lineOf (place : Nat) : Nat := ((a.take place).filter (· = '\n')).length + 1
  if options.has 'l' then
    let width := (Raw.ofNat (max a.length b.length)).length
    for (place, x, y) in found do
      let number := Raw.ofNat place
      let shown (c : Char) : Raw :=
        octal c.toNat ++ if options.has 'b' then ' ' :: visible c else []
      putLine (List.replicate (width - number.length) ' ' ++ number ++ ' ' :: shown x ++
        ' ' :: shown y)
  else match found with
    | (place, x, y) :: _ =>
        if !quiet then
          let start := first ++ ' ' :: second ++ " differ: ".toList ++
            (if options.has 'b' then "byte " else "char ").toList ++ Raw.ofNat place ++
            ", line ".toList ++ Raw.ofNat (lineOf (place - 1))
          putLine (if options.has 'b' then start ++ " is ".toList ++ octal x.toNat ++
              ' ' :: visible x ++ ' ' :: octal y.toNat ++ ' ' :: visible y
            else start)
        return 1
    | [] => pure ()
  if a.length ≠ b.length then
    let short := if a.length < b.length then first else second
    if !quiet then
      pass
      complain ("EOF on ".toList ++ short ++
        if common = 0 then " which is empty".toList
        else
          " after byte ".toList ++ Raw.ofNat common ++
            if options.has 'l' then []
            else (if (a.drop (common - 1)).head? = some '\n' then ", line " else ", in line ").toList
              ++ Raw.ofNat (lineOf (common - 1)))
    return 1
  return if found.isEmpty then 0 else 1

/-- A part of one file that stands for a part of another one: where the parts start, counted from
zero, and how many lines they have. -/
structure Change where
  start : Nat
  removed : Nat
  place : Nat
  added : Nat
  deriving DecidableEq, Repr

/-- How many lines two files have in common from each line of the first one on and each of the
second one on: a row for each line of the first one, and one more. -/
def commonRows (same : Raw → Raw → Bool) (first second : List Raw) : List (List Nat) :=
  first.foldr
    (fun line rows =>
      let below := rows.headD []
      let cells := (second.zip (below.zip (below.drop 1))).foldr
        (fun (other, here, next) row =>
          (if same line other then next + 1 else max here (row.headD 0)) :: row) [0]
      cells :: rows)
    [List.replicate (second.length + 1) 0]

/-- What has to be done from some lines on, as steps: a line stays, is taken out, or is put in. -/
def steps (same : Raw → Raw → Bool) : List (List Nat) → List Raw → List Raw → List (Bool × Bool)
  | _, [], second => second.map fun _ => (false, true)
  | _, first, [] => first.map fun _ => (true, false)
  | rows, a :: first, b :: second =>
      let below := rows[1]?.getD []
      if same a b then
        (true, true) :: steps same ((rows.drop 1).map (·.drop 1)) first second
      else if ((rows.headD [])[1]?).getD 0 ≤ below.headD 0 then
        (true, false) :: steps same (rows.drop 1) first (b :: second)
      else (false, true) :: steps same (rows.map (·.drop 1)) (a :: first) second
termination_by _ first second => first.length + second.length

/-- Steps gathered to changes; it is known how far both files have come. -/
def gathered (here there : Nat) (current : Option Change) : List (Bool × Bool) → List Change
  | [] => current.toList
  | (true, true) :: rest => current.toList ++ gathered (here + 1) (there + 1) none rest
  | (removes, adds) :: rest =>
      let change := current.getD ⟨here, 0, there, 0⟩
      let change := { change with
        removed := change.removed + removes.toNat, added := change.added + adds.toNat }
      gathered (here + removes.toNat) (there + adds.toNat) (some change) rest

/-- How many lines two files have in common at their starts. -/
def sharedStart (same : Raw → Raw → Bool) : List Raw → List Raw → Nat
  | a :: as, b :: bs => if same a b then sharedStart same as bs + 1 else 0
  | _, _ => 0

/-- The changes that make the second one of two files of the first one. -/
def changes (same : Raw → Raw → Bool) (first second : List Raw) : List Change :=
  let start := sharedStart same first second
  let first := first.drop start
  let second := second.drop start
  let finish := sharedStart same first.reverse second.reverse
  let first := first.take (first.length - finish)
  let second := second.take (second.length - finish)
  gathered start start none (steps same (commonRows same first second) first second)

def linesIn (text : Raw) : List Raw :=
  let (lines, isEnded) := linesOf '\n' text
  let ended := lines.map (· ++ ['\n'])
  if isEnded then ended else ended.dropLast ++ (lines.getLast?).toList

/-- A line behind a mark; it is told if it has no end. -/
def marked (mark line : Raw) : Raw :=
  if line.getLast? = some '\n' then mark ++ line
  else mark ++ line ++ "\n\\ No newline at end of file\n".toList

/-- The numbers of lines, from one on; where there is none, the number of the line before. -/
def numbered (start count : Nat) : Raw :=
  if count = 0 then Raw.ofNat start
  else if count = 1 then Raw.ofNat (start + 1)
  else Raw.ofNat (start + 1) ++ ',' :: Raw.ofNat (start + count)

def plain (first second : List Raw) (change : Change) : Raw :=
  let letter := if change.removed = 0 then 'a' else if change.added = 0 then 'd' else 'c'
  let removed := (first.drop change.start).take change.removed
  let added := (second.drop change.place).take change.added
  numbered change.start change.removed ++ letter :: numbered change.place change.added ++
    '\n' :: removed.flatMap (marked ['<', ' ']) ++
    (if letter = 'c' then "---\n".toList else []) ++ added.flatMap (marked ['>', ' '])

/-- Changes that are so near to each other that their surroundings meet, together. -/
def together (context : Nat) : List Change → List (List Change)
  | [] => []
  | change :: rest =>
      match together context rest with
      | (next :: more) :: groups =>
          if next.start ≤ change.start + change.removed + 2 * context then
            (change :: next :: more) :: groups
          else [change] :: (next :: more) :: groups
      | groups => [change] :: groups

def counted (start count : Nat) : Raw :=
  if count = 0 then Raw.ofNat start ++ ",0".toList
  else if count = 1 then Raw.ofNat (start + 1)
  else Raw.ofNat (start + 1) ++ ',' :: Raw.ofNat count

/-- Changes with their surroundings from a line of the first file up to another one. -/
def body (first second : List Raw) (finish : Nat) : Nat → List Change → Raw
  | here, [] => ((first.drop here).take (finish - here)).flatMap (marked [' '])
  | here, change :: rest =>
      ((first.drop here).take (change.start - here)).flatMap (marked [' ']) ++
        ((first.drop change.start).take change.removed).flatMap (marked ['-']) ++
        ((second.drop change.place).take change.added).flatMap (marked ['+']) ++
        body first second finish (change.start + change.removed) rest

/-- Changes that belong together in the unified format. -/
def unified (context : Nat) (first second : List Raw) (group : List Change) : Raw :=
  match group.head?, group.getLast? with
  | some head, some last =>
      let start := head.start - context
      let place := head.place - (head.start - start)
      let finish := min first.length (last.start + last.removed + context)
      let after := finish - (last.start + last.removed)
      let added := last.place + last.added + after - place
      "@@ -".toList ++ counted start (finish - start) ++ " +".toList ++ counted place added ++
        " @@\n".toList ++ body first second finish start group
  | _, _ => []

structure Manner where
  same : Raw → Raw → Bool
  /-- How many lines are shown around changes, if the format is the unified one. -/
  context : Option Nat
  isBrief : Bool
  tellsSame : Bool
  isRecursive : Bool
  /-- Whether a file that is not there counts as an empty one. -/
  newFiles : Bool
  /-- The options, as they were given. -/
  given : List Raw
  labels : List Raw

def heading (mark : String) (label : Option Raw) (path : Raw) : Raw :=
  mark.toList ++ label.getD (path ++ "\t1970-01-01 00:00:00.000000000 +0000".toList) ++ ['\n']

/-- Compare the contents of files, and give whether they are the same; there may be something to be
written before what is found. -/
def compareContents (manner : Manner) (before first second a b : Raw) : Act Bool := do
  let lines := linesIn a
  let others := linesIn b
  let found := if a = b then [] else changes manner.same lines others
  if found.isEmpty then
    if manner.tellsSame then
      putLine ("Files ".toList ++ first ++ " and ".toList ++ second ++ " are identical".toList)
    return true
  else if manner.isBrief then
    putLine ("Files ".toList ++ first ++ " and ".toList ++ second ++ " differ".toList)
    return false
  else
    put before
    match manner.context with
    | some context => do
        put (heading "--- " manner.labels.head? first)
        put (heading "+++ " manner.labels[1]? second)
        for group in together context found do
          put (unified context lines others group)
    | none =>
        for change in found do
          put (plain lines others change)
    return false

/-- The content of a file, and whether that is a directory. -/
def kindOf (manner : Manner) (path : Raw) : Act (Option (Bool × Raw)) := do
  let isThere ← if path = ['-'] then pure false else isDirectory path
  if isThere then return some (true, [])
  else match ← contentOf path with
    | .ok content => return some (false, content)
    | .error error =>
        if manner.newFiles && error = .noEntry then return some (false, [])
        else do
          complain (path ++ ": ".toList ++ reason error)
          return none

def namesAt (path : Raw) : Act (List Raw) := do
  match ← entryOf path with
  | .ok (location, _) => return ((← machine).files.namesBelow location).map Raw.ofBytes
  | .error _ => return []

/-- Compare files or directories, and give a status: zero if they are the same, one if they are not,
and two if that cannot be told. -/
def comparePaths (manner : Manner) (isTop : Bool) : Nat → Raw → Raw → Act Nat
  | 0, _, _ => throw .overdue
  | fuel + 1, first, second => do
      match ← kindOf manner first, ← kindOf manner second with
      | some (false, a), some (false, b) => do
          let before := if isTop then []
            else Raw.join [' '] (["diff".toList] ++ manner.given ++ [first, second]) ++ ['\n']
          return if ← compareContents manner before first second a b then 0 else 1
      | some (true, _), some (true, _) => do
          if !isTop && !manner.isRecursive then
            putLine ("Common subdirectories: ".toList ++ first ++ " and ".toList ++ second)
            return 0
          let names ← namesAt first
          let others ← namesAt second
          let all := (names ++ others.filter fun name => !names.contains name).mergeSort fun a b =>
            FileTree.bytesLe (Raw.toBytes a) (Raw.toBytes b)
          let mut status := 0
          for name in all do
            let only (directory : Raw) : Act Unit :=
              putLine ("Only in ".toList ++ directory ++ ": ".toList ++ name)
            if manner.newFiles || (names.contains name && others.contains name) then
              status := max status
                (← comparePaths manner false fuel (below first name) (below second name))
            else
              only (if names.contains name then first else second)
              status := max status 1
          return status
      | some (isDirectory, _), some _ =>
          if isTop then
            if isDirectory then comparePaths manner true fuel (below first (lastName second)) second
            else comparePaths manner true fuel first (below second (lastName first))
          else do
            let (file, directory) := if isDirectory then (second, first) else (first, second)
            let kind (path : Raw) : Raw := if path = directory then "directory".toList
              else if path = file then "regular file".toList else []
            putLine ("File ".toList ++ first ++ " is a ".toList ++ kind first ++
              " while file ".toList ++ second ++ " is a ".toList ++ kind second)
            return 1
      | _, _ => return 2

/-- Whether two lines are the same for some options. -/
def sameFor (options : Options) (a b : Raw) : Bool :=
  let isSpace (c : Char) : Bool := c = ' ' || (9 ≤ c.toNat && c.toNat ≤ 13)
  let rec squeezed : Raw → Raw
    | c :: d :: rest =>
        if isSpace c && isSpace d then squeezed (d :: rest)
        else (if isSpace c then ' ' else c) :: squeezed (d :: rest)
    | [c] => if isSpace c then [] else [c]
    | [] => []
  let spaced (line : Raw) : Raw :=
    if options.has 'w' then line.filter fun c => !isSpace c
    else if options.has 'b' then squeezed line else line
  let cased (line : Raw) : Raw := if options.has 'i' then line.map Char.toLower else line
  cased (spaced a) = cased (spaced b)

def diff : Utility := fun arguments => do
  let options ← optionsOf (table "abBdEiNqrsTtuU:wyZL:" [("text", .none, 'a'),
    ("ignore-space-change", .none, 'b'), ("ignore-blank-lines", .none, 'B'),
    ("minimal", .none, 'd'), ("ignore-case", .none, 'i'), ("new-file", .none, 'N'),
    ("brief", .none, 'q'), ("recursive", .none, 'r'), ("report-identical-files", .none, 's'),
    ("unified", .optional, 'U'), ("ignore-all-space", .none, 'w'), ("label", .required, 'L'),
    ("normal", .none, '\u0110')]) arguments
  let (first, second) ← bothOf options
  let context ← match options.found.find? (·.1 = 'U') with
    | some (_, some text) =>
        match Raw.nat? text with
        | some n => pure (some n)
        | none => misuse ("invalid context length ".toList ++ Quoting.shown text)
    | some (_, none) => pure (some 3)
    | none => pure (if options.has 'u' then some 3 else none)
  let manner : Manner :=
    { same := sameFor options
      context
      isBrief := options.has 'q'
      tellsSame := options.has 's'
      isRecursive := options.has 'r'
      newFiles := options.has 'N'
      given := arguments.filter fun argument =>
        argument.head? = some '-' && argument ≠ ['-']
      labels := options.found.filterMap fun (letter, value) =>
        if letter = 'L' then value else none }
  comparePaths manner true ((← machine).files.entries.length + 2) first second

end EditorBridge.Utility.Comparing
