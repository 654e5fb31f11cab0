import EditorBridge.Format.Fraction
import EditorBridge.Shell.Lookup
import EditorBridge.Utility.Basic

/-!
# Programs that run programs

Running a program with other variables, for a limited time, or in another way than a shell does it;
and telling what surrounds a program.
-/
namespace EditorBridge.Utility

open Host Act
open Shell (Ending)

/-- The search places that variables name. -/
def placesIn (environment : List (Raw × Raw)) : List Raw :=
  Raw.splitOn ':' ((environment.lookup "PATH".toList).getD "/bin:/usr/bin".toList)

def loadNamed (name : Raw) (arguments : List Raw) : Act (Except SystemError Loaded) := do
  if name = [] then return .error .noEntry
  else Shell.loadCommand (placesIn (← task).environment) name arguments

/-- The status when a program cannot be run. -/
def unrunStatus (error : SystemError) : Nat := if error = .noEntry then 127 else 126

/-- Let a program take the place of this one; if it cannot be run, complain in some words before the
reason. -/
def becomeNamed (words : Raw → Raw) (name : Raw) (arguments : List Raw) : Act Nat := do
  match ← loadNamed name arguments with
  | .error error => do
      complainOf (words name) error
      return unrunStatus error
  | .ok loaded => do
      pass
      throw (.becoming loaded)

/-- The words about a program that could not be run. -/
def failedToRun (name : Raw) : Raw := "failed to run command ".toList ++ Quoting.shown name

def withVariable (name value : Raw) : List (Raw × Raw) → List (Raw × Raw)
  | [] => [(name, value)]
  | (other, old) :: rest =>
      if other = name then (name, value) :: rest else (other, old) :: withVariable name value rest

def assignment? (argument : Raw) : Option (Raw × Raw) :=
  let name := argument.takeWhile (· ≠ '=')
  match argument.drop name.length with
  | _ :: value => some (name, value)
  | [] => none

/-- The words of a text, in which quotes and backslashes have their usual meaning; nothing if a
quote is missing. -/
def wordsOf : Option Char → Option Raw → Raw → Option (List Raw)
  | none, word, [] => some word.toList
  | some _, _, [] => none
  | none, word, c :: rest =>
      if c = ' ' || (9 ≤ c.toNat && c.toNat ≤ 13) then
        (wordsOf none none rest).map fun words => word.toList ++ words
      else if c = '\'' || c = '"' then wordsOf (some c) (some (word.getD [])) rest
      else match c, rest with
        | '\\', next :: rest =>
            if next = '_' then (wordsOf none none rest).map fun words => word.toList ++ words
            else wordsOf none (some (word.getD [] ++ [next])) rest
        | _, rest => wordsOf none (some (word.getD [] ++ [c])) rest
  | some quote, word, c :: rest =>
      if c = quote then wordsOf none word rest
      else match c, rest with
        | '\\', next :: rest =>
            if next = '\\' || next = quote then
              wordsOf (some quote) (some (word.getD [] ++ [next])) rest
            else wordsOf (some quote) (some (word.getD [] ++ [c, next])) rest
        | _, rest => wordsOf (some quote) (some (word.getD [] ++ [c])) rest
termination_by _ _ text => text.length

/-- Arguments in which a text to be split is taken apart. -/
def withSplit : List Raw → Act (List Raw)
  | [] => return []
  | argument :: rest => do
      let apart (text : Raw) (rest : List Raw) : Act (List Raw) := do
        match wordsOf none none text with
        | some words => return words ++ rest
        | none => giveUp "no terminating quote in -S string".toList
      match argument, rest with
      | '-' :: 'S' :: [], text :: rest => apart text rest
      | '-' :: 'S' :: text, rest => apart text rest
      | '-' :: 'v' :: 'S' :: [], text :: rest => return ['-', 'v'] :: (← apart text rest)
      | '-' :: 'v' :: 'S' :: text, rest => return ['-', 'v'] :: (← apart text rest)
      | _, rest =>
          if argument.head? = some '-' && argument.length = 2 then
            return argument :: (← withSplit rest)
          else return argument :: rest

/-- Change the variables as options and assignments say, and give what stands after those. -/
def changeVariables (options : Options) : Act (List Raw) := do
  let verbose := options.has 'v'
  let tell (text : Raw) : Act Unit := do
    if verbose then write 2 (text ++ ['\n'])
  let bare := options.operands.head? = some ['-']
  let operands := if bare then options.operands.drop 1 else options.operands
  if options.has 'i' || bare then
    tell "cleaning environ".toList
    modifyTask fun task => { task with environment := [] }
  for (letter, value) in options.found do
    if letter = 'u' then
      let name := value.getD []
      if name = [] || name.contains '=' then
        giveUp ("cannot unset ".toList ++ Quoting.shown name ++ ": Invalid argument".toList)
      tell ("unset:    ".toList ++ name)
      modifyTask fun task =>
        { task with environment := task.environment.filter (·.1 ≠ name) }
  let assignments := operands.takeWhile fun operand => (assignment? operand).isSome
  for argument in assignments do
    tell ("setenv:   ".toList ++ argument)
    match assignment? argument with
    | some (name, value) =>
        modifyTask fun task =>
          { task with environment := withVariable name value task.environment }
    | none => pure ()
  return operands.drop assignments.length

def changeDirectory (path : Raw) : Act Unit := do
  let fault (error : SystemError) : Act Unit :=
    giveUp ("cannot change directory to ".toList ++ Quoting.shown path ++ ": ".toList ++
      reason error)
  match (← machine).files.find (← task).directory (Raw.toBytes path) with
  | .ok (location, .directory) => modifyTask fun task => { task with directory := location }
  | .ok (_, .file _ _) => fault .notDirectory
  | .error error => fault error

/-- Run a program with other variables, or show the variables. -/
def env : Utility := fun arguments => do
  let arguments ← withSplit arguments
  let options ← optionsOf (leadingTable "C:iS:u:v0" [("argv0", .required, 'a'),
    ("ignore-environment", .none, 'i'), ("null", .none, '0'), ("unset", .required, 'u'),
    ("chdir", .required, 'C'), ("debug", .none, 'v'), ("split-string", .required, 'S')]) arguments
  let operands ← changeVariables options
  match operands with
  | [] => do
      if options.has 'C' then misuse "must specify command with --chdir (-C)".toList
      for (name, value) in (← task).environment do
        put (name ++ '=' :: value ++ [if options.has '0' then '\x00' else '\n'])
      return 0
  | name :: arguments => do
      if options.has '0' then misuse "cannot specify --null (-0) with command".toList
      match options.value? 'C' with
      | some path => changeDirectory path
      | none => pure ()
      if options.has 'v' then
        write 2 ("executing: ".toList ++ name ++ ['\n'])
        for (argument, index) in (name :: arguments).zipIdx do
          write 2 ("   arg[".toList ++ Raw.ofNat index ++ "]= ".toList ++
            Quoting.betweenQuotes argument ++ ['\n'])
      let status ← becomeNamed Quoting.betweenQuotes name arguments
      if status = 127 && name.contains ' ' then
        complain "use -[v]S to pass options in shebang lines".toList
      return status

def printenv : Utility := fun arguments => do
  let options ← optionsOf (leadingTable "0" [("null", .none, '0')]) arguments
  let terminator := if options.has '0' then '\x00' else '\n'
  let environment := (← task).environment
  if options.operands.isEmpty then
    for (name, value) in environment do
      put (name ++ '=' :: value ++ [terminator])
    return 0
  else
    let mut status := 0
    for name in options.operands do
      match if name.contains '=' then none else environment.lookup name with
      | some value => put (value ++ [terminator])
      | none => status := 1
    return status

/-- The milliseconds that a text says, with a letter for the unit; nothing if it says none. -/
def milliseconds? (text : Raw) : Option Nat :=
  let read := Format.readFraction text
  let factor? := match read.rest with
    | [] | ['s'] => some 1
    | ['m'] => some 60
    | ['h'] => some 3600
    | ['d'] => some 86400
    | _ => none
  match read.magnitude, factor? with
  | .finite n d, some factor =>
      if read.rest = text || (read.negative && n ≠ 0) then none
      else some ((n * factor * 1000 + d - 1) / d)
  | .infinite, some _ => if read.negative then none else some 1000000000000000
  | _, _ => none

def invalidTime (text : Raw) : Raw := "invalid time interval ".toList ++ Quoting.shown text

def sleep : Utility := fun arguments => do
  let options ← optionsOf (leadingTable "" []) arguments
  if options.operands.isEmpty then missingOperand []
  let mut total := 0
  let mut isRight := true
  for operand in options.operands do
    match milliseconds? operand with
    | some n => total := total + n
    | none => do
        complain (invalidTime operand)
        isRight := false
  if !isRight then giveUpHelpfully
  Act.sleep total
  return 0

def signal? (text : Raw) : Option Nat :=
  let name := text.map Char.toUpper
  Shell.Signal.ofText? 0 (if name.take 3 = "SIG".toList then name.drop 3 else name)

structure TimeLimit where
  signal : Nat
  /-- When to kill the program that has not ended on the signal. -/
  killAfter : Nat
  foreground : Bool
  verbose : Bool
  keepsStatus : Bool

/-- Send a signal to a program and to all that it has started. -/
def TimeLimit.strike (limit : TimeLimit) (name : Raw) (child signal : Nat) : Act Unit := do
  if limit.verbose then
    complain ("sending signal ".toList ++ Shell.Signal.name signal ++ " to command ".toList ++
      Quoting.shown name)
  let others ← if limit.foreground then pure [] else descendants child
  for id in child :: others do
    let _ ← send signal (some id)
  if !limit.foreground && signal = 9 then throw (.killed 9)

/-- Let a program end within some time, and give the status. -/
def TimeLimit.guard (limit : TimeLimit) (name : Raw) (child duration : Nat) : Act Nat := do
  let start := (← machine).clock
  if duration ≠ 0 then await (.endingOrTime child (start + duration))
  let timedOut := duration ≠ 0 && !(← machine).endings.any (·.1 = child)
  if timedOut then
    limit.strike name child limit.signal
    if limit.killAfter ≠ 0 then
      await (.endingOrTime child ((← machine).clock + limit.killAfter))
      if !(← machine).endings.any (·.1 = child) then limit.strike name child 9
  let ending ← join child
  match ending with
  | .killed signal => do
      if !timedOut then throw (.killed signal)
      return if limit.keepsStatus || signal = 9 then 128 + signal else 124
  | .exited status => return if timedOut && !limit.keepsStatus then 124 else status

/-- Run a program for a limited time. -/
def timeout : Utility := fun arguments => do
  let options ← optionsOf (leadingTable "k:s:v" [("foreground", .none, 'f'),
    ("preserve-status", .none, 'p'), ("kill-after", .required, 'k'), ("signal", .required, 's'),
    ("verbose", .none, 'v')]) arguments
  let durationOf (text : Raw) : Act Nat := do
    match milliseconds? text with
    | some n => return n
    | none => misuse (invalidTime text)
  let killAfter ← match options.value? 'k' with
    | some text => durationOf text
    | none => pure 0
  let signal ← match options.value? 's' with
    | none => pure 15
    | some text =>
        match signal? text with
        | some signal => pure signal
        | none => misuse (Quoting.shown text ++ ": invalid signal".toList)
  match options.operands with
  | duration :: name :: arguments => do
      let duration ← durationOf duration
      let limit : TimeLimit :=
        ⟨signal, killAfter, options.has 'f', options.has 'v', options.has 'p'⟩
      match ← loadNamed name arguments with
      | .error error => do
          complainOf (failedToRun name) error
          return unrunStatus error
      | .ok loaded => do
          let child ← fork id (← channels) (.program loaded)
          limit.guard name child duration
  | _ => giveUpHelpfully

/-- Run a program with another priority, or tell the priority. -/
def nice : Utility := fun arguments => do
  let old (argument : Raw) : Option Raw := match argument with
    | '-' :: rest =>
        let digits := match rest with
          | '-' :: digits | '+' :: digits => digits
          | digits => digits
        if digits.head?.any Char.isDigit then some rest else none
    | _ => none
  let arguments := match arguments with
    | first :: rest =>
        match old first with
        | some adjustment => ['-', 'n'] :: adjustment :: rest
        | none => arguments
    | [] => arguments
  let options ← optionsOf (leadingTable "n:" [("adjustment", .required, 'n')]) arguments
  match options.value? 'n' with
  | some text =>
      if (Raw.int? text).isNone then giveUp ("invalid adjustment ".toList ++ Quoting.shown text)
  | none => pure ()
  match options.operands with
  | [] => do
      if options.has 'n' then misuse "a command must be given with an adjustment".toList
      putLine ['0']
      return 0
  | name :: arguments => becomeNamed Quoting.betweenQuotes name arguments

/-- Run a program that does not mind being hung up on. -/
def nohup : Utility := fun arguments => do
  let options ← optionsOf (leadingTable "" []) arguments
  match options.operands with
  | [] => missingOperand []
  | name :: arguments => do
      modifyTask fun task => { task with ignored := 1 :: task.ignored.filter (· ≠ 1) }
      becomeNamed failedToRun name arguments

/-- Run a program in a session of its own. -/
def setsid : Utility := fun arguments => do
  let options ← optionsOf (leadingTable "cfw" [("ctty", .none, 'c'), ("fork", .none, 'f'),
    ("wait", .none, 'w')]) arguments
  match options.operands with
  | [] => misuse "no command specified".toList
  | name :: arguments => becomeNamed ("failed to execute ".toList ++ ·) name arguments

def pathsOf (name : Raw) : Act (List Raw) := do
  let files := (← machine).files
  let directory := (← task).directory
  let isProgram (path : Raw) : Bool :=
    match files.find directory (Raw.toBytes path) with
    | .ok (_, .file _ executable) => executable
    | _ => false
  let places := placesIn (← task).environment
  let paths := if name.contains '/' then [name]
    else places.map fun place =>
      (if place = [] then ['.'] else place) ++ '/' :: name
  return if name = [] then [] else paths.filter isProgram

def which : Utility := fun arguments => do
  match (leadingTable "as" []).take arguments with
  | .error problem => do
      match problem with
      | .invalidLetter letter => write 2 ("Illegal option -".toList ++ [letter, '\n'])
      | _ => write 2 "Illegal option --\n".toList
      putLine "Usage: /usr/bin/which [-as] args".toList
      return 2
  | .ok options => do
      let mut status := if options.operands.isEmpty then 1 else 0
      for name in options.operands do
        let paths ← pathsOf name
        if paths.isEmpty then status := 1
        if !options.has 's' then
          for path in if options.has 'a' then paths else paths.take 1 do
            putLine path
      return status

/-- A program without operands that says one thing. -/
def saying (text : String) : Utility := fun arguments => do
  let options ← optionsOf (table "" []) arguments
  match options.operands with
  | operand :: _ => extraOperand operand
  | [] => do
      putLine text.toList
      return 0

def whoami : Utility := saying "root"

/-- Tell what kind of machine this is. -/
def arch : Utility := saying "x86_64"

/-- Tell what the first input is, which is no terminal. -/
def tty : Utility := fun arguments => do
  let options ← optionsOf (table "s" [("quiet", .none, 's'), ("silent", .none, 's')]) arguments
  match options.operands with
  | operand :: _ => do
      tryCatch (extraOperand operand) fun _ => throw (.exited 2)
  | [] => do
      if !options.has 's' then putLine "not a tty".toList
      return 1

/-- Tell the numbers and names of the user and the groups. -/
def identity : Utility := fun arguments => do
  let options ← optionsOf (table "agnruzGZ" [("group", .none, 'g'), ("groups", .none, 'G'),
    ("name", .none, 'n'), ("real", .none, 'r'), ("user", .none, 'u'), ("zero", .none, 'z')])
    arguments
  let chosen := "ugG".toList.filter options.has
  if 1 < chosen.length then giveUp "cannot print \"only\" of more than one choice".toList
  if chosen.isEmpty && (options.has 'n' || options.has 'r') then
    giveUp "cannot print only names or real IDs in default format".toList
  let mut status := 0
  for user in if options.operands.isEmpty then ["root".toList] else options.operands do
    if user ≠ "root".toList && user ≠ ['0'] then
      complain (Quoting.shown user ++ ": no such user".toList)
      status := 1
    else if chosen.isEmpty then putLine "uid=0(root) gid=0(root) groups=0(root)".toList
    else putLine (if options.has 'n' then "root".toList else ['0'])
  return status

/-- What a system says about itself, by the letters of options, in the order in which it is said. -/
def systemNames : List (Char × String) :=
  [('s', "Linux"), ('n', "localhost"), ('r', "6.8.0"), ('v', "#1 SMP"), ('m', "x86_64"),
    ('p', "x86_64"), ('i', "x86_64"), ('o', "GNU/Linux")]

def uname : Utility := fun arguments => do
  let options ← optionsOf (table "asnrvmpio" [("all", .none, 'a'), ("kernel-name", .none, 's'),
    ("nodename", .none, 'n'), ("kernel-release", .none, 'r'), ("kernel-version", .none, 'v'),
    ("machine", .none, 'm'), ("processor", .none, 'p'), ("hardware-platform", .none, 'i'),
    ("operating-system", .none, 'o')]) arguments
  match options.operands with
  | operand :: _ => extraOperand operand
  | [] => do
      let chosen := systemNames.filter fun (letter, _) => options.has 'a' || options.has letter
      let chosen := if chosen.isEmpty then systemNames.take 1 else chosen
      putLine (Raw.join [' '] (chosen.map (·.2.toList)))
      return 0

end EditorBridge.Utility
