import EditorBridge.Utility.Processes

/-!
# Arguments from the input

Words that are read become arguments of a program, which is run as often as needed.
-/
namespace EditorBridge.Utility.Arguments

open Host Act

/-- A word, and whether it is the last one of its line. -/
abbrev Item := Raw × Bool

/-- Why an input cannot be taken apart. -/
inductive Fault where
  | singleQuote
  | doubleQuote
  deriving DecidableEq, Repr

def Fault.message (fault : Fault) : Raw :=
  let kind := match fault with
    | singleQuote => "single"
    | doubleQuote => "double"
  ("unmatched " ++ kind ++ " quote; by default quotes are special to xargs unless you use the " ++
    "-0 option").toList

/-- Words between blanks and ends of lines, in which quotes and backslashes have a meaning.  A line
that ends in a blank goes on. -/
def itemsOf (word : Option Raw) : Raw → Except Fault (List Item)
  | [] => .ok (word.toList.map fun word => (word, true))
  | '\\' :: c :: rest => itemsOf (some (word.getD [] ++ [c])) rest
  | c :: rest =>
      if c = '\'' || c = '"' then
        let inside := rest.takeWhile fun d => d ≠ c && d ≠ '\n'
        if (rest.drop inside.length).head? = some c then
          itemsOf (some (word.getD [] ++ inside)) (rest.drop (inside.length + 1))
        else .error (if c = '\'' then .singleQuote else .doubleQuote)
      else if c = '\n' then
        (itemsOf none rest).map fun items => word.toList.map (fun word => (word, true)) ++ items
      else if c = ' ' || c = '\t' then
        (itemsOf none rest).map fun items => word.toList.map (fun word => (word, false)) ++ items
      else itemsOf (some (word.getD [] ++ [c])) rest
termination_by text => text.length

/-- The lines of an input without blanks at their starts, in which quotes and backslashes have a
meaning. -/
def linesIn (line : Option Raw) : Raw → Except Fault (List Item)
  | [] => .ok (line.toList.map fun line => (line, true))
  | '\\' :: c :: rest => linesIn (some (line.getD [] ++ [c])) rest
  | c :: rest =>
      if c = '\'' || c = '"' then
        let inside := rest.takeWhile fun d => d ≠ c && d ≠ '\n'
        if (rest.drop inside.length).head? = some c then
          linesIn (some (line.getD [] ++ inside)) (rest.drop (inside.length + 1))
        else .error (if c = '\'' then .singleQuote else .doubleQuote)
      else if c = '\n' then
        (linesIn none rest).map fun items => line.toList.map (fun line => (line, true)) ++ items
      else if (c = ' ' || c = '\t') && line.isNone then linesIn none rest
      else linesIn (some (line.getD [] ++ [c])) rest
termination_by text => text.length

/-- How the input is taken apart. -/
inductive Division where
  | words
  | lines
  | by (separator : Char)
  deriving DecidableEq, Repr

def Division.items (division : Division) (text : Raw) : Except Fault (List Item) :=
  match division with
  | words => itemsOf none text
  | lines => linesIn none text
  | .by separator => .ok ((linesOf separator text).1.map fun item => (item, true))

/-- The first items, up to some number of them or of lines. -/
def batches (most : Option Nat) (lines : Option Nat) : Nat → List Item → List (List Raw)
  | 0, _ => []
  | _, [] => []
  | fuel + 1, items =>
      let count := match most, lines with
        | some most, _ => most
        | none, some lines =>
            let rec upTo : Nat → List Item → Nat
              | 0, _ => 0
              | _, [] => 0
              | lines + 1, (_, isLast) :: rest =>
                  1 + upTo (if isLast then lines else lines + 1) rest
            upTo lines items
        | none, none => 5000
      let count := max 1 count
      (items.take count).map (·.1) :: batches most lines fuel (items.drop count)

structure Call where
  command : List Raw
  /-- What is replaced in the command by the whole of an item. -/
  placeholder : Option Raw
  shows : Bool

/-- A text with all occurrences of another one replaced. -/
def replaced (old new : Raw) : Nat → Raw → Raw
  | 0, text => text
  | _, [] => []
  | fuel + 1, c :: rest =>
      if !old.isEmpty && old.isPrefixOf (c :: rest) then
        new ++ replaced old new fuel ((c :: rest).drop old.length)
      else c :: replaced old new fuel rest

def Call.words (call : Call) (arguments : List Raw) : List Raw :=
  match call.placeholder with
  | none => call.command ++ arguments
  | some old =>
      let new := arguments.headD []
      call.command.take 1 ++
        (call.command.drop 1).map fun word => replaced old new (word.length + 1) word

/-- Run a program once; the status that counts against all of them. -/
def Call.run (call : Call) (arguments : List Raw) : Act Nat := do
  let words := call.words arguments
  if call.shows then
    write 2 (Raw.join [' '] (words.map Quoting.forShell) ++ ['\n'])
  let name := words.headD []
  match ← loadNamed name (words.drop 1) with
  | .error error => do
      complainOf name error
      throw (.exited (unrunStatus error))
  | .ok loaded => do
      let table := (0, Channel.nothing) :: (← channels).filter (·.1 ≠ 0)
      match ← join (← fork id table (.program loaded)) with
      | .killed signal => do
          complain (name ++ ": terminated by signal ".toList ++ Raw.ofNat signal)
          throw (.exited 125)
      | .exited 0 => return 0
      | .exited 255 => do
          complain (name ++ ": exited with status 255; aborting".toList)
          throw (.exited 124)
      | .exited _ => return 123

def names : List (String × Arity × Char) :=
  [("null", .none, '0'), ("arg-file", .required, 'a'), ("delimiter", .required, 'd'),
    ("eof", .optional, 'e'), ("replace", .optional, 'i'), ("max-lines", .optional, 'l'),
    ("max-args", .required, 'n'), ("open-tty", .none, 'o'), ("interactive", .none, 'p'),
    ("no-run-if-empty", .none, 'r'), ("max-chars", .required, 's'), ("verbose", .none, 't'),
    ("exit", .none, 'x'), ("max-procs", .required, 'P')]

/-- The number that an option has, which must be great enough. -/
def countOf (letter : Char) (least : Nat) (text : Raw) : Act Nat := do
  match Raw.int? text with
  | none =>
      complain ("invalid number \"".toList ++ text ++ "\" for -".toList ++ letter ::
        " option".toList)
      giveUpHelpfully
  | some n =>
      if n < least then
        complain ("value ".toList ++ text ++ " for -".toList ++ letter ::
          " option should be >= ".toList ++ Raw.ofNat least)
        giveUpHelpfully
      return n.toNat

/-- The name of an option that may be given only alone. -/
def exclusiveName (letter : Char) : String :=
  match letter with
  | 'n' => "--max-args"
  | 'L' | 'l' => "--max-lines"
  | _ => "--replace/-I/-i"

/-- The last option of those that may be given only alone; others before it are complained about. -/
def exclusiveOption (options : Options) : Act (Option (Char × Option Raw)) := do
  let given := options.found.filter fun option => "nLlIi".toList.contains option.1
  let mut last : Option (Char × Option Raw) := none
  for (letter, value) in given do
    match last with
    | some (other, _) =>
        let isHarmless := letter = 'n' && value = some ['1'] && (other = 'I' || other = 'i')
        if exclusiveName other ≠ exclusiveName letter && !isHarmless then
          complain ("warning: options ".toList ++ (exclusiveName other).toList ++ " and ".toList ++
            (exclusiveName letter).toList ++ " are mutually exclusive, ignoring previous ".toList ++
            (exclusiveName other).toList ++ " value".toList)
        if !isHarmless then last := some (letter, value)
    | none => last := some (letter, value)
  return last

/-- Run a program with arguments from the input. -/
def xargs : Utility := fun arguments => do
  let options ← optionsOf (leadingTable "0a:E:e::i::I:l::L:n:prs:txP:d:o" names) arguments
  let exclusive ← exclusiveOption options
  let number (letter : Char) (value : Option Raw) : Act (Option Nat) := do
    match value with
    | some text => return some (← countOf letter 1 text)
    | none => return some 1
  let most ← match exclusive with
    | some ('n', value) => number 'n' value
    | _ => pure none
  let lines ← match exclusive with
    | some ('L', value) => number 'L' value
    | some ('l', value) => number 'l' value
    | _ => pure none
  let placeholder := match exclusive with
    | some ('I', value) => value
    | some ('i', value) => some (value.getD "\x7b\x7d".toList)
    | _ => none
  match options.value? 'P' with
  | some text =>
      let _ ← countOf 'P' 0 text
  | none => pure ()
  let separator := match options.lastOf? "0d" with
    | some '0' => some '\x00'
    | some _ =>
        let text := (options.value? 'd').getD []
        let letter : Option Char := match text with
          | '\\' :: c :: _ =>
              (Quoting.escapeLetters.find? fun (_, letter) => letter = c).map fun (d, _) => d
          | _ => none
        some (letter.getD (text.headD '\n'))
    | none => none
  let division := match separator with
    | some separator => Division.by separator
    | none => if placeholder.isSome then .lines else .words
  let path := (options.value? 'a').getD ['-']
  let text ← match ← contentOf path with
    | .ok text => pure text
    | .error error => giveUp ("Cannot open input file ".toList ++ Quoting.shown path ++
        ": ".toList ++ reason error)
  let items ← match division.items text with
    | .ok items => pure items
    | .error fault => giveUp fault.message
  let finish := ((options.value? 'E').orElse fun _ => options.value? 'e').filter (· ≠ [])
  let items := match finish with
    | some word =>
        if separator.isNone then items.takeWhile (fun (item : Item) => item.1 ≠ word) else items
    | none => items
  let command := if options.operands.isEmpty then ["echo".toList] else options.operands
  let call : Call := ⟨command, placeholder, options.has 't'⟩
  if items.isEmpty then
    if options.has 'r' || placeholder.isSome then return 0 else call.run []
  else
    let mut status := 0
    for batch in batches (if placeholder.isSome then some 1 else most) lines
        (items.length + 1) items do
      status := max status (← call.run batch)
    return status

end EditorBridge.Utility.Arguments
