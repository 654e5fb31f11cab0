import EditorBridge.Utility.Editing.Reader
import EditorBridge.Utility.Files
import EditorBridge.Utility.Processes

/-!
# Editing lines

The lines of files go through a script one after another.  What is not deleted is written after the
script has come to its end, and what was to follow it is written behind it.  A last line that does
not end is written without an end, as long as nothing comes after it.
-/
namespace EditorBridge.Utility.Editing

open Host Act
open EditorBridge.Regex (Place Found)

structure Settings where
  quiet : Bool
  /-- Whether each file has lines of its own. -/
  separate : Bool
  /-- Whether files are changed, with what is put behind the names of their old contents. -/
  inPlace : Option Raw
  terminator : Char
  /-- The width of lines that are shown. -/
  width : Nat

/-- What is written after a line. -/
inductive Follower where
  | text (raw : Raw)
  | file (path : Raw)

structure Target where
  path : Raw
  descriptor : Nat
  /-- Whether the last line written has no end. -/
  owesEnd : Bool

structure Editor where
  script : Script
  settings : Settings
  /-- The files that have not been opened. -/
  paths : List Raw
  current : Raw
  isOpen : Bool
  /-- Lines that have been read ahead, and whether they have ends. -/
  ready : List (Raw × Bool)
  rest : List Raw
  pattern : Raw
  hasEnd : Bool
  held : Raw
  line : Nat
  /-- For the commands within whose lines one is: up to which line, if that is known. -/
  ranges : List (Nat × Option Nat)
  /-- The commands whose first line was given by its number and has been. -/
  spent : List Nat
  followers : List Follower
  isChanged : Bool
  used : Option Regex
  owesEnd : Bool
  /-- What is written into the file that is changed, the last piece first. -/
  collected : List Raw
  targets : List Target
  /-- Files whose lines are read one by one. -/
  sources : List (Raw × List Raw)
  status : Nat

abbrev Edit := StateT Editor Act

/-- Write something where lines go. -/
def emit (raw : Raw) : Edit Unit := do
  if (← get).settings.inPlace.isSome then
    modify fun editor => { editor with collected := raw :: editor.collected }
  else put raw

/-- Write the end of a line that is owed. -/
def settle : Edit Unit := do
  let editor ← get
  if editor.owesEnd then
    emit [editor.settings.terminator]
    modify fun editor => { editor with owesEnd := false }

/-- Write a line, with its end or without. -/
def emitLine (text : Raw) (hasEnd : Bool) : Edit Unit := do
  settle
  let terminator := (← get).settings.terminator
  emit (if hasEnd then text ++ [terminator] else text)
  if !hasEnd then modify fun editor => { editor with owesEnd := true }

def emitTo (path text : Raw) (hasEnd : Bool) : Edit Unit := do
  if path = "/dev/stdout".toList then emitLine text hasEnd
  else
    let terminator := (← get).settings.terminator
    match (← get).targets.find? (·.path = path) with
    | none => return ()
    | some target => do
        let owed := if target.owesEnd then [terminator] else []
        let line := if hasEnd then text ++ [terminator] else text
        Act.write target.descriptor (owed ++ line)
        modify fun editor =>
          { editor with
            targets := editor.targets.map fun other =>
              if other.path = path then { other with owesEnd := !hasEnd } else other }

def emitFollowers : Edit Unit := do
  let followers := (← get).followers
  modify fun editor => { editor with followers := [] }
  for follower in followers do
    settle
    match follower with
    | .text raw => emit raw
    | .file path =>
        match ← contentOf path with
        | .ok content => emit content
        | .error _ => pure ()

/-- Write what has been collected into the file that is changed. -/
def finishFile : Edit Unit := do
  let editor ← get
  match editor.settings.inPlace with
  | none => return ()
  | some suffix => do
      if editor.current.isEmpty then return ()
      let path := editor.current
      if !suffix.isEmpty then
        let copy := if suffix.contains '*' then
            suffix.flatMap fun c => if c = '*' then lastName path else [c]
          else path ++ suffix
        match ← contentOf path with
        | .ok content =>
            let _ ← changeFiles (fun files directory path =>
              files.write directory path false (Raw.toBytes content)) copy
        | .error _ => pure ()
      let content := editor.collected.reverse.flatten
      let _ ← changeFiles (fun files directory path =>
        files.write directory path false (Raw.toBytes content)) path
      set { editor with collected := [], owesEnd := false, current := [] }

/-- Complain about a file that cannot be edited, and go on without it. -/
def skipFile (text : Raw) (status : Nat) : Edit Unit := do
  complain text
  modify fun editor => { editor with status }

def openFile (path : Raw) : Edit Unit := do
  let inPlace := (← get).settings.inPlace.isSome
  let start : Edit Unit := modify fun editor =>
    { editor with
      current := path
      isOpen := true
      line := if editor.settings.separate then 0 else editor.line
      ranges := if editor.settings.separate then [] else editor.ranges }
  if path = ['-'] && !inPlace then
    setChannel inputDescriptor (← channel? 0)
    start
  else if inPlace && (← isDirectory path) then
    skipFile ("couldn't edit ".toList ++ path ++ ": not a regular file".toList) 4
  else
    match ← openPath path .read with
    | .ok channel => do
        setChannel inputDescriptor (some channel)
        start
    | .error error => skipFile ("can't read ".toList ++ path ++ ": ".toList ++ reason error) 2

/-- Read ahead until there is a line, as far as the open file goes. -/
def readAhead : Nat → Edit Unit
  | 0 => throw .overdue
  | rounds + 1 => do
      let editor ← get
      if !editor.ready.isEmpty || !editor.isOpen then return ()
      match ← readFrom inputDescriptor blockSize with
      | .error error => do
          complain ("read error on ".toList ++ editor.current ++ ": ".toList ++ reason error)
          throw (.exited 4)
      | .ok [] => do
          let last := editor.rest.reverse.flatten
          set { editor with
            isOpen := false
            rest := []
            ready := if last.isEmpty then [] else [(last, false)] }
      | .ok piece => do
          labourFor piece
          let (lines, rest) := cutLines editor.settings.terminator editor.rest piece
          set { editor with ready := lines.map fun line => (line, true), rest }
          readAhead rounds

/-- Read ahead until there is a line, in the open file or in one of those after it. -/
def readAheadOn : Nat → Edit Unit
  | 0 => return ()
  | fuel + 1 => do
      readAhead roundLimit
      let editor ← get
      if editor.ready.isEmpty then
        match editor.paths with
        | [] => return ()
        | path :: paths => do
            finishFile
            modify fun editor => { editor with paths }
            openFile path
            readAheadOn fuel

def isLast : Edit Bool := do
  if (← get).settings.separate then readAhead roundLimit
  else readAheadOn ((← get).paths.length + 1)
  return (← get).ready.isEmpty

/-- Take the next line, in place of the pattern or behind it; tell whether there is one. -/
def takeLine (behind : Bool) : Edit Bool := do
  emitFollowers
  readAheadOn ((← get).paths.length + 1)
  let editor ← get
  match editor.ready with
  | [] => return false
  | (text, hasEnd) :: ready => do
      set { editor with
        ready, hasEnd
        pattern := if behind then editor.pattern ++ text else text
        line := editor.line + 1
        isChanged := false }
      return true

/-- The regular expression that is meant, which will be the one used last. -/
def regexMeant (regex : Option Regex) : Edit Regex := do
  match regex, (← get).used with
  | some regex, _ => do
      modify fun editor => { editor with used := some regex }
      return regex
  | none, some regex => return regex
  | none, none => do
      complain "-e expression #1, char 0: no previous regular expression".toList
      throw (.exited 1)

/-- Whether an address is that of the current line. -/
def isAt (address : Address) : Edit Bool := do
  match address with
  | .line number => return (← get).line = number
  | .step first interval => do
      let line := (← get).line
      return first ≤ line && (line - first) % interval = 0
  | .last => isLast
  | .matching regex => do
      let meant ← regexMeant regex
      return meant.occursIn (← get).pattern

/-- Be among the lines of a command no more. -/
def leave (place : Nat) : Edit Unit :=
  modify fun editor => { editor with ranges := editor.ranges.filter (·.1 ≠ place) }

/-- Be among the lines of a command, up to a line if that is known. -/
def enter (place : Nat) (finish : Option Nat) : Edit Unit :=
  modify fun editor =>
    { editor with ranges := (place, finish) :: editor.ranges.filter (·.1 ≠ place) }

/-- Whether the current line is the first one of a command that has a last one, too. -/
def starts (place : Nat) (first : Address) : Edit Bool := do
  match first with
  | .line number => do
      let editor ← get
      if editor.spent.contains place || editor.line < number then return false
      set { editor with spent := place :: editor.spent }
      return true
  | first => isAt first

/-- Whether the current line is among those from one to another. -/
def isBetween (place : Nat) (first : Address) (finish : Finish) : Edit Bool := do
  let editor ← get
  let line := editor.line
  let isZero := match first with
    | .line 0 => true
    | _ => false
  let active := match editor.ranges.lookup place with
    | some limit => some limit
    | none => if isZero && !editor.spent.contains place then some none else none
  match active, finish with
  | some (some limit), _ => do
      if limit ≤ line then leave place
      if limit < line then isAt first else return true
  | some none, .at address => do
      if ← isAt address then
        leave place
        if isZero then modify fun editor => { editor with spent := place :: editor.spent }
      return true
  | some none, _ => return true
  | none, _ => do
      if isZero || !(← starts place first) then return false
      let untilLine (limit : Nat) : Edit Unit := do
        if line < limit then enter place (some limit)
      match finish with
      | .at (.line limit) => untilLine limit
      | .at _ => enter place none
      | .later count => untilLine (line + count)
      | .multiple divisor =>
          if divisor ≠ 0 then untilLine ((line + divisor - 1) / divisor * divisor)
      return true

/-- Whether a command is meant for the current line. -/
def isMeant (place : Nat) (command : Command) : Edit Bool := do
  let holds ← match command.first, command.finish with
    | none, _ => pure true
    | some first, none => isAt first
    | some first, some finish => isBetween place first finish
  return holds ≠ command.negated

/-- A text under casings: the one that lasts, and the one for the next letter. -/
structure Cased where
  lasting : Casing
  next : Option Casing
  /-- What has been written, the last piece first. -/
  written : List Raw

def Casing.change (casing : Casing) (text : Raw) : Raw :=
  match casing with
  | upper => text.map Char.toUpper
  | lower => text.map Char.toLower
  | _ => text

def Cased.add (cased : Cased) (text : Raw) : Cased :=
  match text, cased.next with
  | [], _ => cased
  | _, none => { cased with written := cased.lasting.change text :: cased.written }
  | first :: rest, some next =>
      let first := if next = .nextUpper then first.toUpper else first.toLower
      { cased with
        next := none
        written := cased.lasting.change rest :: [first] :: cased.written }

def replacement (pieces : List Piece) (found : Found) : Raw :=
  (pieces.foldl (fun cased piece => match piece with
    | .text raw => cased.add raw
    | .group index => cased.add (found.group index)
    | .casing .nextUpper => { cased with next := some .nextUpper }
    | .casing .nextLower => { cased with next := some .nextLower }
    | .casing casing => { cased with lasting := casing, next := none })
    (⟨.plain, none, []⟩ : Cased)).written.reverse.flatten

/-- A text after a substitution from a place on, and whether anything has been replaced.  An empty
match right behind another match does not count. -/
def substituted (substitution : Substitution) (regex : Regex) :
    Nat → Nat → Option Nat → Place → List Raw → Bool → List Raw × Bool
  | 0, _, _, place, written, replaced => (place.rest :: written, replaced)
  | fuel + 1, count, previous, place, written, replaced =>
      match regex.search? place with
      | none => (place.rest :: written, replaced)
      | some found =>
          let before := place.rest.take (found.start.index - place.index)
          let isEmpty := found.start.index = found.finish.index
          let counts := !(isEmpty && previous = some found.start.index)
          let count := if counts then count + 1 else count
          let replaces := counts && substitution.number ≤ count
          let piece := if replaces then replacement substitution.pieces found else found.text
          let written := piece :: before :: written
          let finish := { found.finish with groups := [] }
          if replaces && !substitution.every then (finish.rest :: written, true)
          else
            let previous := some finish.index
            if isEmpty then
              match finish.next? fun _ => true with
              | none => (written, replaced || replaces)
              | some next =>
                  substituted substitution regex fuel count previous next
                    (finish.rest.take 1 :: written) (replaced || replaces)
            else
              substituted substitution regex fuel count previous finish written
                (replaced || replaces)

def outputOf (command : Raw) : Act Raw := do
  pass
  match ← loadNamed "sh".toList ["-c".toList, command] with
  | .error _ => return []
  | .ok loaded => do
      let pipe ← newPipe []
      let table ← channels
      setChannel (inputDescriptor + 1) (some (.pipeOutlet pipe))
      let child ← fork id ((1, .pipeInlet pipe) :: table.filter (·.1 ≠ 1)) (.program loaded)
      let result ← readAll (inputDescriptor + 1)
      setChannel (inputDescriptor + 1) none
      let _ ← join child
      return match result with
        | .ok output => output
        | .error _ => []

/-- Let the pattern be what a command of a shell writes. -/
def evaluate (command : Raw) : Edit Unit := do
  let output ← outputOf command
  let output := if output.getLast? = some '\n' then output.dropLast else output
  modify fun editor => { editor with pattern := output }

def substitute (substitution : Substitution) : Edit Unit := do
  let regex ← regexMeant substitution.regex
  let pattern := (← get).pattern
  let (written, replaced) :=
    substituted substitution regex (pattern.length + 2) 0 none (.start pattern) [] false
  if replaced then
    modify fun editor =>
      { editor with pattern := written.reverse.flatten, isChanged := true }
    if substitution.evaluates then evaluate (← get).pattern
    if substitution.prints then emitLine (← get).pattern (← get).hasEnd
    match substitution.file with
    | some path => emitTo path (← get).pattern (← get).hasEnd
    | none => return ()

def shownCharacter (c : Char) : Raw :=
  if c = '\\' then ['\\', '\\']
  else if Quoting.isVisible c then [c]
  else Quoting.escaped c

/-- A line in which every character can be seen, in lines of some width. -/
def shownLine (width : Nat) (text : Raw) : Raw :=
  let (shown, _) := text.foldl (fun (shown, column) c =>
    let piece := shownCharacter c
    if 0 < width && width - 1 < column + piece.length then
      (piece :: "\\\n".toList :: shown, piece.length)
    else (piece :: shown, column + piece.length)) (([] : List Raw), 0)
  shown.reverse.flatten ++ ['$', '\n']

inductive Turn where
  /-- With the command at a place. -/
  | to (place : Nat)
  /-- With the next line, the pattern being written unless that is not wanted. -/
  | cycle (writes : Bool)
  /-- With the first command, on what is left of the pattern. -/
  | again
  | quit (status : Nat) (writes : Bool)

/-- The next line of a file whose lines are read one by one. -/
def sourceLine (path : Raw) : Edit Raw := do
  let lines ← match (← get).sources.lookup path with
    | some lines => pure lines
    | none =>
        match ← contentOf path with
        | .ok content => do
            let (lines, isWhole) := linesOf '\n' content
            pure (lines.zipIdx.map fun (line, index) =>
              if index + 1 = lines.length && !isWhole then line else line ++ ['\n'])
        | .error _ => pure []
  modify fun editor =>
    { editor with sources := (path, lines.drop 1) :: editor.sources.filter (·.1 ≠ path) }
  return lines.headD []

/-- Write something behind the current line. -/
def follow (follower : Follower) : Edit Unit :=
  modify fun editor => { editor with followers := editor.followers ++ [follower] }

/-- The first line of a text, and what is behind it if there is more. -/
def firstLine (text : Raw) : Raw × Option Raw :=
  let first := text.takeWhile (· ≠ '\n')
  match text.drop first.length with
  | _ :: rest => (first, some rest)
  | [] => (first, none)

def jumpTo (label : Raw) : Edit Turn := do
  let script := (← get).script
  if label.isEmpty then return .to script.commands.size
  return .to ((script.placeOf? label).getD script.commands.size)

def carryOut (place : Nat) (command : Command) : Edit Turn := do
  let onward : Turn := .to (place + 1)
  let setPattern (pattern : Raw) : Edit Turn := do
    modify fun editor => { editor with pattern }
    return onward
  let editor ← get
  match command.action with
  | .block _ | .blockEnd | .label _ => return onward
  | .jump .always label => jumpTo label
  | .jump .ifChanged label => do
      if !editor.isChanged then return onward
      modify fun editor => { editor with isChanged := false }
      jumpTo label
  | .jump .ifUnchanged label => do
      if !editor.isChanged then jumpTo label
      else
        modify fun editor => { editor with isChanged := false }
        return onward
  | .append text => do
      follow (.text text)
      return onward
  | .insert text => do
      settle
      emit text
      return onward
  | .change text => do
      let isWithin := (editor.ranges.lookup place).isSome && !command.negated
      if !isWithin then
        settle
        emit text
      return .cycle false
  | .substitute substitution => do
      substitute substitution
      return onward
  | .replaceEach pairs =>
      setPattern (editor.pattern.map fun c => (pairs.lookup c).getD c)
  | .delete => return .cycle false
  | .deleteLine =>
      match firstLine editor.pattern with
      | (_, none) => return .cycle false
      | (_, some rest) => do
          let _ ← setPattern rest
          return .again
  | .print => do
      emitLine editor.pattern editor.hasEnd
      return onward
  | .printLine => do
      let (first, rest) := firstLine editor.pattern
      emitLine first (rest.isSome || editor.hasEnd)
      return onward
  | .next => do
      if ← isLast then
        if editor.settings.separate && !(← get).paths.isEmpty then pure ()
        else return .cycle true
      if !editor.settings.quiet then emitLine editor.pattern editor.hasEnd
      if ← takeLine false then return onward else return .cycle false
  | .appendNext => do
      if ← isLast then
        if editor.settings.separate && !(← get).paths.isEmpty then pure ()
        else return .cycle true
      let _ ← setPattern (editor.pattern ++ [editor.settings.terminator])
      if ← takeLine true then return onward else return .cycle true
  | .get => setPattern editor.held
  | .getMore => setPattern (editor.pattern ++ [editor.settings.terminator] ++ editor.held)
  | .hold => do
      set { editor with held := editor.pattern }
      return onward
  | .holdMore => do
      set { editor with
        held := editor.held ++ [editor.settings.terminator] ++ editor.pattern }
      return onward
  | .exchange => do
      set { editor with held := editor.pattern, pattern := editor.held }
      return onward
  | .number => do
      settle
      emit (Raw.ofNat editor.line ++ ['\n'])
      return onward
  | .fileName => do
      settle
      emit (editor.current ++ ['\n'])
      return onward
  | .list width => do
      settle
      emit (shownLine (width.getD editor.settings.width) editor.pattern)
      return onward
  | .quit status silent => return .quit status (!silent)
  | .readFile path => do
      follow (.file path)
      return onward
  | .readLine path => do
      let line ← sourceLine path
      if !line.isEmpty then follow (.text line)
      return onward
  | .writeFile path => do
      emitTo path editor.pattern editor.hasEnd
      return onward
  | .writeLine path => do
      let (first, rest) := firstLine editor.pattern
      emitTo path first (rest.isSome || editor.hasEnd)
      return onward
  | .clear => setPattern []
  | .execute text => do
      if text.isEmpty then evaluate editor.pattern
      else
        settle
        emit (← outputOf text)
      return onward

def carryOutFrom : Nat → Nat → Edit Turn
  | 0, _ => throw .overdue
  | rounds + 1, place => do
      match (← get).script.commands[place]? with
      | none => return .cycle true
      | some command => do
          let meant ← isMeant place command
          let turn ← match command.action, meant with
            | .block finish, false => pure (.to finish)
            | _, false => pure (.to (place + 1))
            | _, true => carryOut place command
          match turn with
          | .to next => do
              if next ≤ place then labour
              carryOutFrom rounds next
          | turn => return turn

/-- Write the pattern if that is wanted. -/
def writePattern (writes : Bool) : Edit Unit := do
  let editor ← get
  if writes && !editor.settings.quiet then emitLine editor.pattern editor.hasEnd

/-- Carry out the script for one line after another. -/
def cycles : Nat → Bool → Edit Nat
  | 0, _ => throw .overdue
  | rounds + 1, keepsPattern => do
      if keepsPattern || (← get).line % 8 = 0 then labour
      let goesOn ← if keepsPattern then do
          emitFollowers
          pure true
        else takeLine false
      if !goesOn then return 0
      match ← carryOutFrom roundLimit 0 with
      | .again => cycles rounds true
      | .quit status writes => do
          writePattern writes
          if writes then emitFollowers
          return status
      | .cycle writes => do
          writePattern writes
          cycles rounds false
      | .to _ => cycles rounds false

def names : List (String × Arity × Char) :=
  [("quiet", .none, 'n'), ("silent", .none, 'n'), ("debug", .none, '\u0110'),
    ("expression", .required, 'e'), ("file", .required, 'f'), ("follow-symlinks", .none, '\u0111'),
    ("in-place", .optional, 'i'), ("line-length", .required, 'l'), ("posix", .none, 'p'),
    ("regexp-extended", .none, 'r'), ("separate", .none, 's'), ("sandbox", .none, '\u0112'),
    ("unbuffered", .none, 'u'), ("null-data", .none, 'z')]

def usage : String :=
  "Usage: sed [OPTION]... \x7bscript-only-if-no-other-script\x7d [input-file]...

  -n, --quiet, --silent
                 suppress automatic printing of pattern space
      --debug
                 annotate program execution
  -e script, --expression=script
                 add the script to the commands to be executed
  -f script-file, --file=script-file
                 add the contents of script-file to the commands to be executed
  --follow-symlinks
                 follow symlinks when processing in place
  -i[SUFFIX], --in-place[=SUFFIX]
                 edit files in place (makes backup if SUFFIX supplied)
  -l N, --line-length=N
                 specify the desired line-wrap length for the `l' command
  --posix
                 disable all GNU extensions.
  -E, -r, --regexp-extended
                 use extended regular expressions in the script
                 (for portability use POSIX -E).
  -s, --separate
                 consider files as separate rather than as a single,
                 continuous long stream.
      --sandbox
                 operate in sandbox mode (disable e/r/w commands).
  -u, --unbuffered
                 load minimal amounts of data from the input files and flush
                 the output buffers more often
  -z, --null-data
                 separate lines by NUL characters
      --help     display this help and exit
      --version  output version information and exit

If no -e, --expression, -f, or --file option is given, then the first
non-option argument is taken as the sed script to interpret.  All
remaining arguments are names of input files; if no input files are
specified, then the standard input is read.
"

/-- Give up because of the way the program is called. -/
def refuseCall {α : Type} : Act α := do
  write 2 usage.toList
  throw .failed

/-- Say that a file that the script needs cannot be opened, and give up. -/
def refuseFile {α : Type} (path : Raw) (error : SystemError) : Act α := do
  complain ("couldn't open file ".toList ++ path ++ ": ".toList ++ reason error)
  throw (.exited 4)

def partsOf (options : Options) : Act (List (Origin × Raw)) := do
  let mut parts := []
  for (letter, value) in options.found do
    let value := value.getD []
    if letter = 'e' then
      let count := (parts.filter fun (origin, _) => match origin with
        | Origin.argument _ => true
        | .file _ => false).length
      parts := parts ++ [(Origin.argument (count + 1), value)]
    if letter = 'f' then
      match ← contentOf value with
      | .ok content => parts := parts ++ [(Origin.file value, content)]
      | .error error => refuseFile value error
  return parts

/-- Open the files that are written to. -/
def targetsOf (script : Script) : Act (List Target) := do
  let paths := (script.commands.toList.filterMap Command.target?).eraseDups
  let mut targets := []
  for (path, index) in paths.zipIdx do
    if path ≠ "/dev/stdout".toList then
      match ← openPath path .write with
      | .ok channel => do
          let descriptor := inputDescriptor + 2 + index
          setChannel descriptor (some channel)
          targets := targets ++ [⟨path, descriptor, false⟩]
      | .error error => refuseFile path error
  return targets

def putBackAhead (editor : Editor) : Act Unit := do
  if editor.isOpen then
    let ahead := editor.ready.foldl (fun n (line, _) => n + line.length + 1) 0
    putBack inputDescriptor (ahead + editor.rest.flatten.length)

def sed : Utility := fun arguments => do
  match (table "bsnrzuEe:f:l:i::V:s" names).take arguments with
  | .error problem => do
      complain problem.message
      refuseCall
  | .ok options => do
      if options.has '\u0100' || options.has '\u0101' then return 0
      let given ← partsOf options
      let (parts, paths) ← match given, options.operands with
        | [], [] => refuseCall
        | [], script :: paths => pure ([(Origin.argument 1, script)], paths)
        | parts, paths => pure (parts, paths)
      match script (options.has 'E' || options.has 'r') parts with
      | .error refusal => do
          complain refusal.text
          throw (.exited refusal.status)
      | .ok script => do
          let targets ← targetsOf script
          let inPlace := (options.found.find? (·.1 = 'i')).map fun (_, suffix) => suffix.getD []
          let width := ((options.value? 'l').bind Raw.nat?).getD 70
          let settings : Settings :=
            { quiet := script.quiet || options.has 'n'
              separate := options.has 's' || inPlace.isSome
              inPlace
              terminator := if options.has 'z' then '\x00' else '\n'
              width := if width = 1 then 0 else width }
          let editor : Editor :=
            { script, settings
              paths := orInput paths
              current := [], isOpen := false, ready := [], rest := []
              pattern := [], hasEnd := true, held := [], line := 0
              ranges := [], spent := [], followers := [], isChanged := false, used := none
              owesEnd := false, collected := [], targets, sources := [], status := 0 }
          let (status, editor) ← (cycles roundLimit false).run editor
          let ((), _) ← finishFile.run editor
          putBackAhead editor
          return if status ≠ 0 then status else editor.status

end EditorBridge.Utility.Editing
