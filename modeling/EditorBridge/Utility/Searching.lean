import EditorBridge.Regex.Reader
import EditorBridge.Utility.Files

/-!
# Searching for lines

Lines of files that regular expressions match, with what stands around them, or just how many there
are and where.
-/
namespace EditorBridge.Utility.Searching

open Host Act
open EditorBridge.Regex (Place Found Dialect)

/-- What is searched for, and what is said about it. -/
structure Search where
  regexes : List Regex
  /-- Whether what has been matched must be words. -/
  words : Bool
  /-- Whether the whole line must be matched. -/
  lines : Bool
  inverted : Bool
  counts : Bool
  names : Bool
  namesWithout : Bool
  quiet : Bool
  onlyMatches : Bool
  numbers : Bool
  offsets : Bool
  headings : Bool
  silent : Bool
  asText : Bool
  limit : Option Nat
  before : Nat
  after : Nat
  separates : Bool
  terminator : Char
  nameEnd : Char
  recursive : Bool
  includes : List Raw
  excludes : List Raw

/-- Whether what lies between two places is accepted as a match. -/
def Search.accepts (search : Search) (start finish : Place) : Bool :=
  if search.lines then start.index = 0 && finish.rest.isEmpty
  else if search.words then
    !start.previous.any Place.isWord && !finish.rest.head?.any Place.isWord
  else true

/-- The first match of any regular expression from a place on, the longest of those that start
there. -/
def Search.find? (search : Search) (place : Place) : Option Found :=
  (search.regexes.filterMap fun regex => regex.searchFor? search.accepts place).foldl
    (fun best found => match best with
      | none => some found
      | some other =>
          if found.start.index < other.start.index ||
            (found.start.index = other.start.index && other.finish.index < found.finish.index) then
            some found
          else best) none

def Search.selects (search : Search) (line : Raw) : Bool :=
  (search.regexes.any fun regex =>
    (regex.searchFor? search.accepts (.start line)).isSome) ≠ search.inverted

def Search.matchesIn (search : Search) : Nat → Place → List Found
  | 0, _ => []
  | fuel + 1, place =>
      match search.find? place with
      | none => []
      | some found =>
          if found.start.index = found.finish.index then
            match found.start.next? fun _ => true with
            | some next => search.matchesIn fuel next
            | none => []
          else found :: search.matchesIn fuel { found.finish with groups := [] }

structure Scan where
  /-- The number of the last line, and how many bytes there are up to its end. -/
  number : Nat
  offset : Nat
  selected : Nat
  isBinary : Bool
  /-- Lines before the current one that have not been written, with numbers and offsets, the latest
  one first. -/
  waiting : List (Nat × Nat × Raw)
  /-- How many lines are still to be written after a line that was selected. -/
  left : Nat
  /-- The number of the line that was written last. -/
  written : Nat
  deriving Repr

def Scan.start : Scan := ⟨0, 0, 0, false, [], 0, 0⟩

def fileName (path : Raw) : Raw := if path = ['-'] then "(standard input)".toList else path

/-- What stands before a line. -/
def Search.heading (search : Search) (path : Raw) (sign : Char) (number offset : Nat) : Raw :=
  (if search.headings then
      fileName path ++ [if search.nameEnd = '\x00' then '\x00' else sign]
    else []) ++
  (if search.numbers then Raw.ofNat number ++ [sign] else []) ++
  (if search.offsets then Raw.ofNat offset ++ [sign] else [])

def Search.writeLine (search : Search) (path : Raw) (sign : Char) (number offset : Nat)
    (line : Raw) : Act Unit :=
  put (search.heading path sign number offset ++ line ++ [search.terminator])

def Search.writeSelected (search : Search) (path : Raw) (number offset : Nat) (line : Raw) :
    Act Unit := do
  if !search.onlyMatches then search.writeLine path ':' number offset line
  else if !search.inverted then
    for found in search.matchesIn (line.length + 1) (.start line) do
      search.writeLine path ':' number (offset + found.start.index) found.text

/-- Write what divides lines that do not follow each other. -/
def Search.divide (search : Search) (scan : Scan) (first : Nat) (hasOutput : Bool) : Act Unit := do
  if search.separates && !search.onlyMatches && hasOutput && scan.written + 1 ≠ first then
    put "--\n".toList

/-- Look at a line; tell whether to go on, and whether there has been output. -/
def Search.look (search : Search) (path : Raw) (state : Scan × Bool) (line : Raw) :
    Act ((Scan × Bool) × Bool) := do
  let (scan, hasOutput) := state
  let number := scan.number + 1
  let offset := scan.offset
  let scan := { scan with number, offset := offset + line.length + 1 }
  let isQuiet := search.counts || search.names || search.namesWithout || search.quiet
  if search.selects line then
    let scan := { scan with selected := scan.selected + 1 }
    let reached := search.limit.any (· ≤ scan.selected)
    if isQuiet then return ((scan, hasOutput), search.counts && !reached)
    if scan.isBinary then
      if !(search.onlyMatches && search.inverted) then
        complain (fileName path ++ ": binary file matches".toList)
      return ((scan, hasOutput), false)
    search.divide scan (number - scan.waiting.length) hasOutput
    if !search.onlyMatches then
      for (number, offset, line) in scan.waiting.reverse do
        search.writeLine path '-' number offset line
    search.writeSelected path number offset line
    let scan := { scan with waiting := [], left := search.after, written := number }
    return ((scan, true), !reached || 0 < search.after)
  else if isQuiet || scan.isBinary then return ((scan, hasOutput), true)
  else if 0 < scan.left then
    if !search.onlyMatches then search.writeLine path '-' number offset line
    let scan := { scan with left := scan.left - 1, written := number }
    return ((scan, true), 0 < scan.left || !search.limit.any (· ≤ scan.selected))
  else
    let waiting := ((number, offset, line) :: scan.waiting).take search.before
    return (({ scan with waiting }, hasOutput), !search.limit.any (· ≤ scan.selected))

/-- Look at a line unless the limit has been reached and only lines after it are to be written. -/
def Search.lookOn (search : Search) (path : Raw) (state : Scan × Bool) (line : Raw) :
    Act ((Scan × Bool) × Bool) := do
  let (scan, hasOutput) := state
  if search.limit.any (· ≤ scan.selected) then
    if scan.left = 0 then return (state, false)
    if !search.onlyMatches then
      search.writeLine path '-' (scan.number + 1) scan.offset line
    let scan :=
      { scan with
        number := scan.number + 1
        offset := scan.offset + line.length + 1
        left := scan.left - 1 }
    return ((scan, hasOutput), 0 < scan.left)
  else search.look path state line

def Search.scanFile (search : Search) (path : Raw) (hasOutput : Bool) (descriptor : Nat) :
    Act ((Scan × Bool) × Except SystemError Unit) := do
  let step (state : (Scan × Bool) × List Raw × Bool) (piece : Raw) :
      Act (((Scan × Bool) × List Raw × Bool) × Bool) := do
    let ((scan, hasOutput), before, _) := state
    let isBinary := scan.isBinary ||
      (!search.asText && search.terminator ≠ '\x00' && piece.contains '\x00')
    let (lines, rest) := cutLines search.terminator before piece
    let (inner, goesOn) ← foldSome (search.lookOn path) ({ scan with isBinary }, hasOutput) lines
    if search.limit.any (· ≤ inner.1.selected) then
      putBack descriptor (before.flatten.length + piece.length + scan.offset - inner.1.offset)
    return ((inner, rest, goesOn), goesOn)
  if search.limit = some 0 then return ((.start, hasOutput), .ok ())
  let ((inner, rest, goesOn), result) ←
    foldInput descriptor step roundLimit ((.start, hasOutput), [], true)
  let last := rest.reverse.flatten
  if goesOn && last ≠ [] then
    let (inner, _) ← search.lookOn path inner last
    return (inner, result)
  else return (inner, result)

/-- Search a file; the lines that were selected, whether there has been output, and whether
something went wrong. -/
def Search.searchFile (search : Search) (path : Raw) (hasOutput : Bool) :
    Act (Nat × Bool × Bool) := do
  let fault (error : SystemError) : Act (Nat × Bool × Bool) := do
    if !search.silent then complain (path ++ ": ".toList ++ reason error)
    return (0, hasOutput, true)
  match ← withInput path (search.scanFile path hasOutput) with
  | .error error => fault error
  | .ok (_, .error error) => fault error
  | .ok ((scan, hasOutput), .ok ()) => do
      let selected := scan.selected
      let chosen := if search.namesWithout then selected = 0 else selected ≠ 0
      if search.quiet then return (selected, hasOutput, false)
      if search.counts then
        let name := if search.headings then
            fileName path ++ [if search.nameEnd = '\x00' then '\x00' else ':']
          else []
        put (name ++ Raw.ofNat selected ++ ['\n'])
      if (search.names || search.namesWithout) && chosen then
        put (fileName path ++ [search.nameEnd])
      return (selected, hasOutput, false)

def suits (patterns : List Raw) (name : Raw) : Bool :=
  patterns.any fun pattern =>
    Shell.Piece.matchAll (Shell.pattern (pattern.map fun c => (c, false))) name

/-- Whether a file is searched because of its name. -/
def Search.includesFile (search : Search) (path : Raw) : Bool :=
  (search.includes.isEmpty || suits search.includes (lastName path)) &&
    !suits search.excludes (lastName path)

def Search.filesAt (search : Search) (shown path : Raw) : Act (List Raw) := do
  if !search.recursive || path = ['-'] then return [path]
  match ← entryOf path with
  | .ok (location, .directory) => do
      let below := (← machine).files.below location
      let files := below.filter fun (_, entry) => entry ≠ .directory
      let paths := files.map fun (rest, _) =>
        if shown = [] then Raw.ofBytes rest else below' shown (Raw.ofBytes rest)
      return paths.filter search.includesFile
  | _ => return if search.includesFile path then [path] else []
where
  /-- A path below another. -/
  below' (directory rest : Raw) : Raw := below directory rest

/-- Search files, and give the status. -/
def Search.run (search : Search) (paths : List Raw) : Act Nat := do
  let mut hasOutput := false
  let mut selected := false
  let mut failed := false
  for path in paths do
    if search.quiet && selected then break
    for file in ← search.filesAt (if path = [] then [] else path)
        (if path = [] then ['.'] else path)
      do
      if search.quiet && selected then break
      let (count, output, fault) ← search.searchFile file hasOutput
      hasOutput := output
      selected := selected || count ≠ 0
      failed := failed || fault
  return if failed && !(search.quiet && selected) then 2 else if selected then 0 else 1

def usage : Raw := "Usage: grep [OPTION]... PATTERNS [FILE]...".toList

/-- Give up because of the way the program is called. -/
def refuse {α : Type} : Act α := do
  write 2 (usage ++ ['\n'])
  write 2 "Try 'grep --help' for more information.\n".toList
  throw .failed

def names : List (String × Arity × Char) :=
  [("extended-regexp", .none, 'E'), ("fixed-strings", .none, 'F'), ("basic-regexp", .none, 'G'),
    ("perl-regexp", .none, 'P'), ("regexp", .required, 'e'), ("file", .required, 'f'),
    ("ignore-case", .none, 'i'), ("no-ignore-case", .none, '\u0110'), ("word-regexp", .none, 'w'),
    ("line-regexp", .none, 'x'), ("null-data", .none, 'z'), ("no-messages", .none, 's'),
    ("invert-match", .none, 'v'), ("max-count", .required, 'm'), ("byte-offset", .none, 'b'),
    ("line-number", .none, 'n'), ("line-buffered", .none, 'u'), ("with-filename", .none, 'H'),
    ("no-filename", .none, 'h'), ("only-matching", .none, 'o'), ("quiet", .none, 'q'),
    ("silent", .none, 'q'), ("text", .none, 'a'), ("recursive", .none, 'r'),
    ("dereference-recursive", .none, 'R'), ("files-without-match", .none, 'L'),
    ("files-with-matches", .none, 'l'), ("count", .none, 'c'), ("null", .none, 'Z'),
    ("before-context", .required, 'B'), ("after-context", .required, 'A'),
    ("context", .required, 'C'), ("color", .optional, '\u0111'), ("colour", .optional, '\u0111'),
    ("include", .required, '\u0112'), ("exclude", .required, '\u0113'),
    ("exclude-dir", .required, '\u0114'), ("binary-files", .required, '\u0115'),
    ("no-group-separator", .none, '\u0116')]

/-- The patterns in options, or the first operand; and the other operands. -/
def patternsOf (options : Options) : Act (List Raw × List Raw) := do
  let mut texts : List Raw := []
  let mut isGiven := false
  for (letter, value) in options.found do
    if letter = 'e' then
      isGiven := true
      texts := texts ++ Raw.splitOn '\n' (value.getD [])
    if letter = 'f' then
      isGiven := true
      let path := value.getD []
      match ← contentOf path with
      | .error error => giveUp (path ++ ": ".toList ++ reason error)
      | .ok content => texts := texts ++ (linesOf '\n' content).1
  if isGiven then return (texts, options.operands)
  match options.operands with
  | [] => refuse
  | first :: rest => return (Raw.splitOn '\n' first, rest)

/-- The regular expression for a text that stands for itself. -/
def literal (dialect : Dialect) (text : Raw) : Regex :=
  ⟨EditorBridge.Regex.sequence (text.map (EditorBridge.Regex.character dialect)),
    ⟨false, dialect.ignoresCase⟩, 0⟩

/-- The regular expressions that texts are; give up if one is none. -/
def regexesOf (fixed : Bool) (dialect : Dialect) (texts : List Raw) : Act (List Regex) :=
  texts.mapM fun text => do
    if fixed then return literal dialect text
    match EditorBridge.Regex.read dialect false text with
    | .ok (regex, warnings) => do
        for warning in warnings do
          complain ("warning: ".toList ++ warning.toList)
        return regex
    | .error fault => giveUp fault.message.toList

/-- The number that an option has for context; digits alone are one, too. -/
def contextOf (options : Options) : Act (Nat × Nat) := do
  let numberOf (letter : Char) : Act (Option Nat) := do
    match options.value? letter with
    | none => return none
    | some text =>
        match Raw.nat? text with
        | some n => return some n
        | none => giveUp (text ++ ": invalid context length argument".toList)
  let before ← numberOf 'B'
  let after ← numberOf 'A'
  let digits := options.found.filterMap fun (letter, _) =>
    if letter.isDigit then some letter else none
  let around := match ← numberOf 'C' with
    | some n => some n
    | none => Raw.nat? digits
  return ((before.orElse fun _ => around).getD 0, (after.orElse fun _ => around).getD 0)

/-- Search files for lines, the options saying how unless it is known. -/
def grepAs (kind : Option Char) : Utility := fun arguments => do
  let letters := "0123456789A:B:C:EFGPHILRTUVX:abcd:D:e:f:hiLlm:noqrsuvwxyZz"
  match (table letters names).take arguments with
  | .error problem => do
      complain problem.message
      refuse
  | .ok options => do
      if options.has '\u0100' || options.has '\u0101' then return 0
      let kind := kind.getD ((options.lastOf? "EFGP").getD 'G')
      let (before, after) ← contextOf options
      let limit ← match options.value? 'm' with
        | none => pure none
        | some text =>
            match Raw.int? text with
            | some n => pure (if n < 0 then none else some n.toNat)
            | none => giveUp "invalid max count".toList
      let (texts, paths) ← patternsOf options
      let ignoresCase := (options.lastOf? "iy\u0110").any (· ≠ '\u0110')
      let dialect : Dialect := ⟨kind ≠ 'G', false, ignoresCase⟩
      let regexes ← regexesOf (kind = 'F') dialect texts
      let recursive := options.has 'r' || options.has 'R'
      let isNamed := match options.lastOf? "hH" with
        | some letter => letter = 'H'
        | none => 1 < paths.length ||
            (recursive && !(paths.length = 1 && paths.all fun path => path = ['-']))
      let onlyOneFile ← match paths with
        | [path] => do pure (!(← isDirectory path))
        | _ => pure false
      let values (letter : Char) : List Raw := options.found.filterMap fun (other, value) =>
        if other = letter then value else none
      let search : Search :=
        { regexes
          words := options.has 'w'
          lines := options.has 'x'
          inverted := options.has 'v'
          counts := options.has 'c'
          names := options.lastOf? "lL" = some 'l'
          namesWithout := options.lastOf? "lL" = some 'L'
          quiet := options.has 'q'
          onlyMatches := options.has 'o'
          numbers := options.has 'n'
          offsets := options.has 'b'
          headings := isNamed && !(recursive && onlyOneFile && !options.has 'H')
          silent := options.has 's'
          asText := options.has 'a' || options.value? '\u0115' = some "text".toList
          limit, before, after
          separates := (0 < before || 0 < after) && !options.has '\u0116'
          terminator := if options.has 'z' then '\x00' else '\n'
          nameEnd := if options.has 'Z' then '\x00' else '\n'
          recursive
          includes := values '\u0112'
          excludes := values '\u0113' }
      search.run (if paths.isEmpty then (if recursive then [[]] else [['-']]) else paths)

def grep : Utility := grepAs none

/-- Search files for lines that extended regular expressions match. -/
def egrep : Utility := fun arguments => do
  modifyTask fun task => { task with name := "grep".toList }
  grepAs (some 'E') arguments

/-- Search files for lines with texts in them. -/
def fgrep : Utility := fun arguments => do
  modifyTask fun task => { task with name := "grep".toList }
  grepAs (some 'F') arguments

end EditorBridge.Utility.Searching
