import EditorBridge.Regex.Reader
import EditorBridge.Text.Scan
import EditorBridge.Utility.Editing.Script

/-!
# Reading scripts for editing lines

A complaint about a script says how much of it had been read when something was wrong with it, or
in which line of a file that was.
-/
namespace EditorBridge.Utility.Editing

open EditorBridge.Regex (Dialect)

/-- Where a part of a script comes from. -/
inductive Origin where
  | argument (number : Nat)
  | file (path : Raw)

structure Progress where
  rest : Raw
  /-- How much of the part has been read, and how many lines. -/
  position : Nat
  line : Nat
  origin : Origin
  isExtended : Bool
  commands : Array Command
  /-- The blocks that have not been closed. -/
  blocks : List Nat
  /-- Whether the text of the last command may still come. -/
  isPending : Bool
  quiet : Bool

/-- Why a script cannot be carried out. -/
inductive Complaint where
  /-- Something is wrong at the place that has been reached. -/
  | here (text : Raw)
  /-- Something is wrong with the whole. -/
  | whole (text : Raw)
  /-- Something is wrong that has no place. -/
  | nowhere (text : Raw)

abbrev Reading := ExceptT Complaint (StateM Progress)

def refuse {α : Type} (text : String) : Reading α := throw (.here text.toList)

def next : Reading (Option Char) := do
  match (← get).rest with
  | [] => return none
  | c :: rest => do
      modify fun progress =>
        { progress with
          rest
          position := progress.position + 1
          line := if c = '\n' then progress.line + 1 else progress.line }
      return some c

def back (c : Option Char) : Reading Unit :=
  match c with
  | none => return ()
  | some c =>
      modify fun progress =>
        { progress with
          rest := c :: progress.rest
          position := progress.position - 1
          line := if c = '\n' then progress.line - 1 else progress.line }

def takeWhile (admits : Char → Bool) : Reading Raw := do
  let taken := (← get).rest.takeWhile admits
  modify fun progress =>
    { progress with
      rest := progress.rest.drop taken.length
      position := progress.position + taken.length
      line := progress.line + (taken.filter (· = '\n')).length }
  return taken

/-- Whether a character is a blank. -/
def isBlank (c : Char) : Bool := c = ' ' || c = '\t'

def isSpace (c : Char) : Bool := " \t\n\x0b\x0c\r".toList.contains c

def nextVisible : Reading (Option Char) := do
  let _ ← takeWhile isBlank
  next

def number (first : Option Char) : Reading Nat := do
  match first with
  | some c =>
      if c.isDigit then
        let digits ← takeWhile Char.isDigit
        return (Raw.nat? (c :: digits)).getD 0
      else do
        back first
        return 0
  | none => return 0

def escapes : List (Char × Char) :=
  [('a', '\x07'), ('f', '\x0c'), ('r', '\r'), ('t', '\t'), ('v', '\x0b')]

/-- A number of so many digits at most, as a character; and what comes after it. -/
def numbered? (base limit : Nat) (text : Raw) : Option (Char × Raw) :=
  let value? (c : Char) : Option Nat := (Text.hexDigit? c).bind fun n =>
    if n < base then some n else none
  let digits := (text.take limit).takeWhile fun c => (value? c).isSome
  if digits.isEmpty then none
  else
    let n := digits.foldl (fun n c => n * base + (value? c).getD 0) 0
    some (Char.ofNat (n % 256), text.drop digits.length)

/-- The character that an escape stands for, and what comes after it. -/
def escape? : Raw → Option (Char × Raw)
  | 'd' :: rest => numbered? 10 3 rest
  | 'o' :: rest => numbered? 8 3 rest
  | 'x' :: rest => numbered? 16 2 rest
  | 'c' :: c :: rest =>
      some (Char.ofNat ((c.toUpper.toNat + (if 64 ≤ c.toUpper.toNat then 0 else 128)) - 64), rest)
  | c :: rest => (escapes.lookup c).map fun d => (d, rest)
  | [] => none

/-- A text with the characters that escapes stand for; those of some characters stay escaped. -/
def withoutEscapes (kept : Raw) : Nat → Raw → Raw
  | 0, text => text
  | _, [] => []
  | fuel + 1, '\\' :: rest =>
      match escape? rest with
      | some (c, rest) =>
          (if kept.contains c then ['\\', c] else [c]) ++ withoutEscapes kept fuel rest
      | none =>
          match rest with
          | c :: rest => '\\' :: c :: withoutEscapes kept fuel rest
          | [] => ['\\']
  | fuel + 1, c :: rest => c :: withoutEscapes kept fuel rest

inductive Depth where
  | outside
  /-- A bracket has just been opened, perhaps with a circumflex after it. -/
  | opened (negated : Bool)
  | inside
  /-- In a class, up to a sign and a bracket. -/
  | named (sign : Char)
  /-- Before the bracket that ends a class. -/
  | closing
  deriving DecidableEq, Repr

/-- Where one is after a character of a regular expression, the one after that being known. -/
def Depth.after (depth : Depth) (c : Char) (following : Option Char) : Depth :=
  match depth with
  | outside => if c = '[' then opened false else outside
  | opened negated =>
      if c = '^' && !negated then opened true
      else if c = '[' && following.any ":.=".toList.contains then named (following.getD ':')
      else inside
  | inside =>
      if c = ']' then outside
      else if c = '[' && following.any ":.=".toList.contains then named (following.getD ':')
      else inside
  | named sign => if c = sign && following = some ']' then closing else named sign
  | closing => inside

/-- A text up to a sign; nothing if the sign is missing.  In a regular expression, a sign within a
set is no end. -/
def upTo (sign : Char) (isRegex : Bool) : Nat → Depth → Raw → Reading (Option Raw)
  | 0, _, _ => return none
  | fuel + 1, depth, before => do
      match ← next with
      | none => return none
      | some c => do
          let add (depth : Depth) (text : Raw) : Reading (Option Raw) :=
            upTo sign isRegex fuel depth (text.reverse ++ before)
          if depth ≠ .outside then
            let following := (← get).rest.head?
            if c = '\n' then
              back (some c)
              return none
            else if c = '\\' && following = some 'n' then do
              let _ ← next
              add .inside ['\n']
            else add (depth.after c following) [c]
          else if c = sign then return some before.reverse
          else if c = '\n' then do
            back (some c)
            return none
          else if c = '\\' then do
            match ← next with
            | none => return none
            | some d =>
                if d = 'n' && isRegex then add depth ['\n']
                else if d = '\n' then add depth (if isRegex then [d] else ['\\', d])
                else if d = sign && !(!isRegex && d = '&') then add depth [d]
                else add depth ['\\', d]
          else
            let following := (← get).rest.head?
            add (if isRegex then depth.after c following else depth) [c]

def delimited (sign : Char) (isRegex : Bool) : Reading (Option Raw) := do
  upTo sign isRegex ((← get).rest.length + 1) .outside []

/-- The regular expression that a text is; an empty one is the one used last. -/
def regexOf (text : Raw) (ignoresCase ofLines : Bool) : Reading (Option Regex) := do
  if text.isEmpty then
    if ignoresCase || ofLines then refuse "cannot specify modifiers on empty regexp"
    return none
  let dialect : Dialect := ⟨(← get).isExtended, true, ignoresCase⟩
  match EditorBridge.Regex.read dialect ofLines (withoutEscapes [] (text.length + 1) text) with
  | .ok (regex, _) => return some regex
  | .error .bareClass => throw (.nowhere EditorBridge.Regex.Fault.bareClass.message.toList)
  | .error fault => throw (.here fault.message.toList)

/-- The options after a regular expression in an address. -/
def addressOptions : Nat → Bool → Bool → Reading (Bool × Bool)
  | 0, ignoresCase, ofLines => return (ignoresCase, ofLines)
  | fuel + 1, ignoresCase, ofLines => do
      match ← nextVisible with
      | some 'I' => addressOptions fuel true ofLines
      | some 'M' => addressOptions fuel ignoresCase true
      | c => do
          back c
          return (ignoresCase, ofLines)

/-- What may stand for a line, or for the last one of some, from a character on. -/
def address? (c : Option Char) : Reading (Option Finish) := do
  let regex (sign : Option Char) : Reading (Option Finish) := do
    let text ← match sign with
      | some sign => delimited sign true
      | none => pure none
    match text with
    | none => refuse "unterminated address regex"
    | some text => do
        let (ignoresCase, ofLines) ← addressOptions ((← get).rest.length + 1) false false
        return some (.at (.matching (← regexOf text ignoresCase ofLines)))
  match c with
  | some '/' => regex c
  | some '\\' => regex (← next)
  | some '$' => return some (.at .last)
  | some '+' => return some (.later (← number (← nextVisible)))
  | some '~' => return some (.multiple (← number (← nextVisible)))
  | some d =>
      if !d.isDigit then return none
      let first ← number c
      match ← nextVisible with
      | some '~' => do
          let interval ← number (← nextVisible)
          return some (.at (if interval = 0 then .line first else .step first interval))
      | other => do
          back other
          return some (.at (.line first))
  | none => return none

/-- Whether an address is that of the line before the first one. -/
def isZero : Option Address → Bool
  | some (.line 0) => true
  | _ => false

/-- The lines that a command is meant for, and the character after that. -/
def addresses (c : Option Char) :
    Reading (Option Address × Option Finish × Bool × Option Char) := do
  let (first, finish, c) ← match ← address? c with
    | none => pure (none, none, c)
    | some (.at first) => do
        match ← nextVisible with
        | some ',' => do
            match ← address? (← nextVisible) with
            | none => refuse "unexpected `,'"
            | some finish => pure (some first, some finish, ← nextVisible)
        | c => pure (some first, none, c)
    | some (.later 0) | some (.multiple 0) => pure (none, none, ← nextVisible)
    | some _ => refuse "invalid usage of +N or ~N as first address"
  let isRegex := match finish with
    | some (.at (.matching _)) => true
    | _ => false
  if isZero first && !isRegex then refuse "invalid usage of line address 0"
  if c ≠ some '!' then return (first, finish, false, c)
  let c ← nextVisible
  if c = some '!' then refuse "multiple `!'s"
  return (first, finish, true, c)

/-- Make sure that a command ends here. -/
def commandEnd : Reading Unit := do
  match ← nextVisible with
  | none | some '\n' | some ';' => return ()
  | some c =>
      if c = '\x7d' || c = '#' then back (some c)
      else refuse "extra characters after command"

def label : Reading Raw := do
  let _ ← takeWhile isBlank
  takeWhile fun c => !isSpace c && c ≠ ';' && c ≠ '\x7d'

/-- A path, which goes to the end of the line. -/
def path : Reading Raw := do
  let _ ← takeWhile isBlank
  let path ← takeWhile (· ≠ '\n')
  let _ ← next
  if path.isEmpty then refuse "missing filename in r/R/w/W commands"
  return path

/-- A text without the backslashes that take characters for themselves. -/
def withoutBackslashes : Nat → Raw → Raw
  | 0, text => text
  | _, [] => []
  | fuel + 1, '\\' :: rest =>
      match escape? rest, rest with
      | some (c, rest), _ => c :: withoutBackslashes fuel rest
      | none, 'n' :: rest => '\n' :: withoutBackslashes fuel rest
      | none, c :: rest => c :: withoutBackslashes fuel rest
      | none, [] => []
  | fuel + 1, c :: rest => c :: withoutBackslashes fuel rest

/-- The rest of a line, and those after it as long as there is a backslash before the end. -/
def lines : Nat → Raw → Reading Raw
  | 0, before => return before.reverse
  | fuel + 1, before => do
      match ← next with
      | none | some '\n' => return before.reverse
      | some '\\' => do
          match ← next with
          | none => return before.reverse
          | some c => lines fuel (c :: '\\' :: before)
      | some c => lines fuel (c :: before)

def text : Reading Raw := do
  let text ← lines ((← get).rest.length + 1) []
  return withoutBackslashes (text.length + 1) text ++ ['\n']

/-- The text of a command, which may be in the next part of the script. -/
def textArgument : Reading Raw := do
  match ← nextVisible with
  | none => refuse "expected \\ after `a', `c' or `i'"
  | some '\\' => do
      match ← next with
      | none => do
          modify fun progress => { progress with isPending := true }
          return []
      | some '\n' => text
      | some '\\' => do
          back (some '\\')
          text
      | some c => return c :: (← text)
  | c => do
      back c
      text

def pieces : Nat → Raw → List Piece
  | 0, _ => []
  | _, [] => []
  | fuel + 1, '&' :: rest => .group 0 :: pieces fuel rest
  | fuel + 1, '\\' :: c :: rest =>
      let piece : Piece := match c with
        | 'U' => .casing .upper
        | 'L' => .casing .lower
        | 'E' => .casing .plain
        | 'u' => .casing .nextUpper
        | 'l' => .casing .nextLower
        | 'n' => .text ['\n']
        | c => if c.isDigit then .group (c.toNat - 48) else .text [c]
      piece :: pieces fuel rest
  | fuel + 1, c :: rest =>
      let plain := (c :: rest).takeWhile fun c => c ≠ '&' && c ≠ '\\'
      if plain.isEmpty then [.text [c]]
      else .text plain :: pieces fuel ((c :: rest).drop plain.length)

structure SubstitutionOptions where
  substitution : Substitution
  ignoresCase : Bool
  ofLines : Bool

def substitutionOptions : Nat → SubstitutionOptions → Reading SubstitutionOptions
  | 0, options => return options
  | fuel + 1, options => do
      let substitution := options.substitution
      let c ← next
      match c with
      | some 'i' | some 'I' => substitutionOptions fuel { options with ignoresCase := true }
      | some 'm' | some 'M' => substitutionOptions fuel { options with ofLines := true }
      | some 'e' =>
          substitutionOptions fuel
            { options with substitution := { substitution with evaluates := true } }
      | some 'p' => do
          if substitution.prints then refuse "multiple `p' options to `s' command"
          substitutionOptions fuel
            { options with substitution := { substitution with prints := true } }
      | some 'g' => do
          if substitution.every then refuse "multiple `g' options to `s' command"
          substitutionOptions fuel
            { options with substitution := { substitution with every := true } }
      | some 'w' => do
          let file ← path
          return { options with substitution := { substitution with file := some file } }
      | none | some '\n' | some ';' => return options
      | some d =>
          if d = '\x7d' || d = '#' then do
            back c
            return options
          else if isBlank d then substitutionOptions fuel options
          else if d.isDigit then do
            if substitution.number ≠ 0 then refuse "multiple number options to `s' command"
            let number ← number c
            if number = 0 then refuse "number option to `s' command may not be zero"
            substitutionOptions fuel
              { options with substitution := { substitution with number } }
          else refuse "unknown option to `s'"

def greatestGroup (pieces : List Piece) : Nat :=
  pieces.foldl (fun greatest piece => match piece with
    | .group index => max greatest index
    | _ => greatest) 0

def substitution : Reading Action := do
  let unterminated {α : Type} : Reading α := refuse "unterminated `s' command"
  let sign ← match ← next with
    | some sign => if sign = '\n' || sign = '\\' then unterminated else pure sign
    | none => unterminated
  match ← delimited sign true with
  | none => unterminated
  | some regex => do
      match ← delimited sign false with
      | none => unterminated
      | some replacement => do
          let replacement := withoutEscapes ['&', '\\'] (replacement.length + 1) replacement
          let start : Substitution :=
            ⟨none, pieces (replacement.length + 1) replacement, 0, false, false, false, none⟩
          let options ← substitutionOptions ((← get).rest.length + 1) ⟨start, false, false⟩
          let regex ← regexOf regex options.ignoresCase options.ofLines
          let greatest := greatestGroup start.pieces
          if regex.any (·.groups < greatest) then
            throw (.here ("invalid reference \\".toList ++ Raw.ofNat greatest ++
              " on `s' command's RHS".toList))
          let substitution := options.substitution
          return .substitute
            { substitution with regex, number := max 1 substitution.number }

/-- The characters of a text in which a backslash takes the next one for itself. -/
def plainCharacters : Nat → Raw → Raw
  | 0, text => text
  | fuel + 1, '\\' :: c :: rest =>
      (if c = 'n' then '\n' else c) :: plainCharacters fuel rest
  | fuel + 1, c :: rest => c :: plainCharacters fuel rest
  | _, [] => []

def replacementOfEach : Reading Action := do
  let unterminated {α : Type} : Reading α := refuse "unterminated `y' command"
  let sign ← match ← next with
    | some sign => if sign = '\n' || sign = '\\' then unterminated else pure sign
    | none => unterminated
  let side : Reading Raw := do
    match ← delimited sign false with
    | none => unterminated
    | some text => do
        let text := withoutEscapes ['\\'] (text.length + 1) text
        return plainCharacters (text.length + 1) text
  let froms ← side
  let tos ← side
  if froms.length ≠ tos.length then refuse "strings for `y' command are different lengths"
  commandEnd
  return .replaceEach (froms.zip tos).reverse

/-- Commands without arguments. -/
def plainActions : List (Char × Action) :=
  [('=', .number), ('d', .delete), ('D', .deleteLine), ('F', .fileName), ('g', .get),
    ('G', .getMore), ('h', .hold), ('H', .holdMore), ('n', .next), ('N', .appendNext),
    ('p', .print), ('P', .printLine), ('z', .clear), ('x', .exchange)]

/-- An exit status or a width after a command, if there is one. -/
def numberArgument : Reading (Option Nat) := do
  let c ← nextVisible
  let value ← if c.any Char.isDigit then do pure (some (← number c))
    else do
      back c
      pure none
  commandEnd
  return value

/-- What a command does that starts with a character; the lines for it are known, and which block
is open. -/
def action (c : Char) (first : Option Address) (finish : Option Finish) : Reading Action := do
  match plainActions.lookup c with
  | some action => do
      commandEnd
      return action
  | none =>
      match c with
      | 's' => substitution
      | 'y' => replacementOfEach
      | 'a' => return .append (← textArgument)
      | 'i' => return .insert (← textArgument)
      | 'c' => return .change (← textArgument)
      | 'b' => return .jump .always (← label)
      | 't' => return .jump .ifChanged (← label)
      | 'T' => return .jump .ifUnchanged (← label)
      | 'r' => return .readFile (← path)
      | 'R' => return .readLine (← path)
      | 'w' => return .writeFile (← path)
      | 'W' => return .writeLine (← path)
      | 'l' => return .list (← numberArgument)
      | 'q' | 'Q' => do
          if finish.isSome then refuse "command only uses one address"
          return .quit ((← numberArgument).getD 0) (c = 'Q')
      | 'e' => do
          let _ ← takeWhile isBlank
          return .execute (← takeWhile (· ≠ '\n'))
      | ':' => do
          if first.isSome then refuse ": doesn't want any addresses"
          let name ← label
          if name.isEmpty then refuse "\":\" lacks a label"
          return .label name
      | '\x7b' => return .block 0
      | '\x7d' => do
          if (← get).blocks.isEmpty then refuse "unexpected `\x7d'"
          if first.isSome then refuse "\x7d doesn't want any addresses"
          commandEnd
          return .blockEnd
      | c => throw (.here ("unknown command: `".toList ++ [c, '\'']))

def addCommand (command : Command) : Reading Unit := do
  let place := (← get).commands.size
  modify fun progress => { progress with commands := progress.commands.push command }
  match command.action with
  | .block _ => modify fun progress => { progress with blocks := place :: progress.blocks }
  | .blockEnd =>
      match (← get).blocks with
      | opened :: blocks =>
          modify fun progress =>
            { progress with
              blocks
              commands := progress.commands.modify opened fun command =>
                { command with action := .block place } }
      | [] => return ()
  | _ => return ()

def commands : Nat → Reading Unit
  | 0 => return ()
  | fuel + 1 => do
      let _ ← takeWhile fun c => isSpace c || c = ';'
      match ← next with
      | none => return ()
      | some c => do
          let (first, finish, negated, c) ← addresses (some c)
          match c with
          | none => refuse "missing command"
          | some '#' => do
              if first.isSome then refuse "comments don't accept any addresses"
              let _ ← takeWhile (· ≠ '\n')
          | some 'v' => do
              let _ ← label
          | some c => addCommand ⟨first, finish, negated, ← action c first finish⟩
          commands fuel

/-- The text of the last command, which was not in its own part of the script. -/
def pendingText : Reading Unit := do
  if (← get).isPending then
    let text ← text
    modify fun progress =>
      { progress with
        isPending := false
        commands := progress.commands.modify (progress.commands.size - 1) fun command =>
          { command with
            action := match command.action with
              | .append _ => .append text
              | .insert _ => .insert text
              | .change _ => .change text
              | action => action } }

def part (isFirst : Bool) (origin : Origin) (content : Raw) : Reading Unit := do
  modify fun progress => { progress with rest := content, position := 0, line := 1, origin }
  pendingText
  if isFirst && content.take 2 = ['#', 'n'] then
    modify fun progress => { progress with quiet := true }
  commands (content.length + 1)

def parts : Bool → List (Origin × Raw) → Reading Unit
  | _, [] => return ()
  | isFirst, (origin, content) :: rest => do
      part isFirst origin content
      parts false rest

/-- Make sure that all blocks are closed and all labels are there. -/
def closed : Reading Unit := do
  let progress ← get
  if !progress.blocks.isEmpty then
    throw (.whole "unmatched `\x7b'".toList)
  let script : Script := ⟨progress.commands, false⟩
  for command in progress.commands.toList do
    match command.action with
    | .jump _ name =>
        if !name.isEmpty && (script.placeOf? name).isNone then
          throw (.nowhere ("can't find label for jump to `".toList ++ name ++ ['\'']))
    | _ => pure ()

/-- Why a script is refused, in words, and with which status. -/
structure Refusal where
  text : Raw
  status : Nat

def Complaint.refusal (progress : Progress) : Complaint → Refusal
  | here text =>
      match progress.origin with
      | .argument number =>
          ⟨"-e expression #".toList ++ Raw.ofNat number ++ ", char ".toList ++
            Raw.ofNat progress.position ++ ": ".toList ++ text, 1⟩
      | .file path =>
          ⟨"file ".toList ++ path ++ " line ".toList ++ Raw.ofNat progress.line ++ ": ".toList ++
            text, 1⟩
  | whole text =>
      match progress.origin with
      | .argument _ => ⟨"-e expression #1, char 0: ".toList ++ text, 1⟩
      | .file path => ⟨"file ".toList ++ path ++ " line 0: ".toList ++ text, 1⟩
  | nowhere text => ⟨text, 4⟩

def script (isExtended : Bool) (content : List (Origin × Raw)) : Except Refusal Script :=
  let start : Progress := ⟨[], 0, 1, .argument 1, isExtended, #[], [], false, false⟩
  let (result, progress) := (do parts true content; closed : Reading Unit).run.run start
  match result with
  | .ok () => .ok ⟨progress.commands, progress.quiet⟩
  | .error complaint => .error (complaint.refusal progress)

end EditorBridge.Utility.Editing
