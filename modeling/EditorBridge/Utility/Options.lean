import EditorBridge.Text.Raw

/-!
# Options of small programs

Letters after a hyphen, or names after two, which may be cut short as long as they are not
ambiguous.  Options may stand behind other arguments, unless the program is to pass those on.
-/
namespace EditorBridge.Utility

inductive Arity where
  | none
  | required
  /-- Only if it is attached. -/
  | optional
  deriving DecidableEq, Repr

/-- An option with a name, and the letter that it stands for. -/
structure LongOption where
  name : String
  arity : Arity
  letter : Char

/-- The options of a program: its letters, with colons behind those that have a value, and its
names. -/
structure OptionTable where
  letters : String
  names : List LongOption
  /-- Whether options may stand behind other arguments. -/
  isMixed : Bool
  /-- Arguments that are no options although they look like some. -/
  isOperand : Raw → Bool

inductive OptionProblem where
  | invalidLetter (letter : Char)
  | valueMissing (letter : Char)
  | unrecognized (argument : Raw)
  | ambiguous (argument : Raw) (candidates : List String)
  | noValueAllowed (name : String)
  | namedValueMissing (name : String)
  deriving DecidableEq, Repr

def OptionProblem.message : OptionProblem → Raw
  | invalidLetter letter => "invalid option -- '".toList ++ [letter, '\'']
  | valueMissing letter => "option requires an argument -- '".toList ++ [letter, '\'']
  | unrecognized argument => "unrecognized option '".toList ++ argument ++ ['\'']
  | ambiguous argument candidates =>
      "option '".toList ++ argument ++ "' is ambiguous; possibilities:".toList ++
        candidates.flatMap fun name => (" '--" ++ name ++ "'").toList
  | noValueAllowed name => ("option '--" ++ name ++ "' doesn't allow an argument").toList
  | namedValueMissing name => ("option '--" ++ name ++ "' requires an argument").toList

/-- Options by their letters with their values, and the other arguments. -/
structure Options where
  found : List (Char × Option Raw)
  operands : List Raw
  deriving Repr

namespace Options

def has (options : Options) (letter : Char) : Bool := options.found.any (·.1 = letter)

def value? (options : Options) (letter : Char) : Option Raw :=
  (options.found.filter (·.1 = letter)).getLast?.bind (·.2)

def lastOf? (options : Options) (letters : String) : Option Char :=
  ((options.found.filter fun option => letters.toList.contains option.1).getLast?).map (·.1)

end Options

namespace OptionTable

def arityIn (letter : Char) : Raw → Option Arity
  | [] => none
  | c :: ':' :: ':' :: rest => if c = letter then some .optional else arityIn letter rest
  | c :: ':' :: rest => if c = letter then some .required else arityIn letter rest
  | c :: rest => if c = letter && c ≠ ':' then some .none else arityIn letter rest

/-- Whether a letter of a program is an option, and whether it has a value. -/
def arity? (table : OptionTable) (letter : Char) : Option Arity :=
  if letter = ':' || letter = '-' then none else arityIn letter table.letters.toList

/-- The options that the letters of one argument are; the arguments behind may hold a value. -/
def takeLetters (table : OptionTable) (rest : List Raw) :
    Raw → Except OptionProblem (List (Char × Option Raw) × List Raw)
  | [] => .ok ([], rest)
  | letter :: letters =>
      match table.arity? letter with
      | none => .error (.invalidLetter letter)
      | some .none => do
          let (found, rest) ← takeLetters table rest letters
          return ((letter, none) :: found, rest)
      | some .optional =>
          .ok ([(letter, if letters = [] then none else some letters)], rest)
      | some .required =>
          match letters, rest with
          | [], [] => .error (.valueMissing letter)
          | [], value :: rest => .ok ([(letter, some value)], rest)
          | value, rest => .ok ([(letter, some value)], rest)

/-- The option that a name is, which may be cut short. -/
def named (table : OptionTable) (argument name : Raw) : Except OptionProblem LongOption :=
  match table.names.find? fun option => option.name.toList = name with
  | some option => .ok option
  | none =>
      match table.names.filter fun option => name.isPrefixOf option.name.toList with
      | [] => .error (.unrecognized argument)
      | first :: others =>
          if others.all fun option => option.letter = first.letter && option.arity = first.arity
          then .ok first
          else .error (.ambiguous argument ((first :: others).map (·.name)))

/-- The option that an argument with two hyphens is; the arguments behind may hold its value. -/
def takeName (table : OptionTable) (argument : Raw) (rest : List Raw) :
    Except OptionProblem ((Char × Option Raw) × List Raw) := do
  let text := argument.drop 2
  let name := text.takeWhile (· ≠ '=')
  let attached : Option Raw := match text.drop name.length with
    | '=' :: value => some value
    | _ => none
  let option ← table.named argument name
  match option.arity, attached, rest with
  | .none, some _, _ => throw (.noValueAllowed option.name)
  | .none, none, rest | .optional, none, rest => return ((option.letter, none), rest)
  | .required, none, [] => throw (.namedValueMissing option.name)
  | .required, none, value :: rest => return ((option.letter, some value), rest)
  | _, some value, rest => return ((option.letter, some value), rest)

/-- The options among arguments, and the other arguments; the fuel exceeds their number. -/
def takeWithin (table : OptionTable) : Nat → List Raw → Except OptionProblem Options
  | 0, arguments => .ok ⟨[], arguments⟩
  | _, [] => .ok ⟨[], []⟩
  | fuel + 1, argument :: rest =>
      let continueBehind : Except OptionProblem Options :=
        if table.isMixed then do
          let options ← takeWithin table fuel rest
          return { options with operands := argument :: options.operands }
        else .ok ⟨[], argument :: rest⟩
      if table.isOperand argument then continueBehind
      else match argument with
      | ['-', '-'] => .ok ⟨[], rest⟩
      | '-' :: '-' :: _ => do
          if table.names.isEmpty then throw (.invalidLetter '-')
          let (option, rest) ← table.takeName argument rest
          let options ← takeWithin table fuel rest
          return { options with found := option :: options.found }
      | '-' :: letter :: letters => do
          let (found, rest) ← table.takeLetters rest (letter :: letters)
          let options ← takeWithin table fuel rest
          return { options with found := found ++ options.found }
      | _ => continueBehind

def take (table : OptionTable) (arguments : List Raw) : Except OptionProblem Options :=
  table.takeWithin (arguments.length + 1) arguments

end OptionTable

end EditorBridge.Utility
