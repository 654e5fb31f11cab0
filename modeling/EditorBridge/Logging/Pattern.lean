import EditorBridge.Text.Scan
import EditorBridge.Unicode.Alphanumeric
import EditorBridge.Unicode.WhiteSpace

/-!
# Patterns

The regular expressions of the filter library, as far as it can be told whether they are any.

A directive may compare the value of a field with a regular expression.  No record has such a
value, so what matters of an expression is whether it is one: groups and classes are closed,
repetitions have something to repeat, escapes and flags exist, ranges ascend, and nothing asks for
word boundaries beyond ASCII, which no automaton here recognises, or for single bytes beyond ASCII,
which no text contains.
-/
namespace EditorBridge.Logging.Pattern

open EditorBridge.Text

/-- What flags change about the way an expression is read. -/
structure Mode where
  /-- Blanks and comments are skipped. -/
  spaced : Bool
  /-- Characters are meant, and not bytes. -/
  unicode : Bool
  deriving DecidableEq, Repr

def Mode.initial : Mode := ⟨false, true⟩

/-- Skip blanks and comments; the flag tells whether a comment is being skipped. -/
def skipBlanks : Bool → List Char → List Char
  | _, [] => []
  | true, c :: rest => skipBlanks (c ≠ '\n') rest
  | false, c :: rest =>
      if c = '#' then skipBlanks true rest
      else if Unicode.isWhiteSpace c then skipBlanks false rest
      else c :: rest

/-- Skip what the mode lets an expression contain between its parts. -/
def Mode.skip (mode : Mode) (text : List Char) : List Char :=
  if mode.spaced then skipBlanks false text else text

inductive Element where
  | character (codePoint : Nat)
  | set
  | position
  deriving DecidableEq, Repr

def isMeta (c : Char) : Bool := "\\.+*?()|[]\x7b\x7d^$#&-~".toList.contains c

/-- Characters that a backslash makes ordinary. -/
def isEscapable (c : Char) : Bool :=
  isMeta c || (c.toNat < 0x80 && !c.isAlphanum && c ≠ '<' && c ≠ '>')

/-- Characters that a letter after a backslash stands for. -/
def namedCharacters : List (Char × Nat) :=
  [('a', 0x07), ('f', 0x0c), ('t', 0x09), ('n', 0x0a), ('r', 0x0d), ('v', 0x0b)]

/-- A number of hexadecimal digits, and their value. -/
def digits? (mode : Mode) : Nat → Nat → List Char → Option (Nat × List Char)
  | 0, value, rest => some (value, mode.skip rest)
  | count + 1, value, rest =>
      match mode.skip rest with
      | c :: rest =>
          (hexDigit? c).bind fun digit => digits? mode count (value * 16 + digit) rest
      | [] => none

/-- A character given by its code point in a fixed number of hexadecimal digits. -/
def codePoint? (mode : Mode) (count : Nat) (text : List Char) :
    Option (Element × List Char) := do
  let (value, rest) ← digits? mode count 0 text
  guard (value.isValidChar ∧ (mode.unicode ∨ 2 < count ∨ value < 0x80))
  return (.character value, rest)

def category? (mode : Mode) (text : List Char) : Option (Element × List Char) :=
  match mode.skip text with
  | c :: rest =>
      if mode.unicode ∧ "CLMNPSZclmnpsz".toList.contains c then some (.set, mode.skip rest)
      else none
  | [] => none

def escape? (mode : Mode) : List Char → Option (Element × List Char)
  | [] => none
  | c :: rest =>
      if c = 'x' then codePoint? mode 2 rest
      else if c = 'u' then codePoint? mode 4 rest
      else if c = 'U' then codePoint? mode 8 rest
      else if c = 'p' ∨ c = 'P' then category? mode rest
      else if "dsw".toList.contains c then some (.set, rest)
      else if "DSW".toList.contains c then if mode.unicode then some (.set, rest) else none
      else if isEscapable c then some (.character c.toNat, rest)
      else if c = 'A' ∨ c = 'z' then some (.position, rest)
      else if "bB<>".toList.contains c then if mode.unicode then none else some (.position, rest)
      else (namedCharacters.lookup c).map fun codePoint => (.character codePoint, rest)

-- How deep brackets, groups and repetitions lie within each other is limited, so every reader
-- tells how deep what it read is.

/-- The depth of parts side by side: one level more than theirs, unless there are less than two. -/
def beside : List Nat → Nat
  | [] => 0
  | [depth] => depth
  | depths => 1 + depths.foldl max 0

/-- A class whose closing bracket has not come yet. -/
structure OpenClass where
  /-- The depths of its members so far. -/
  members : List Nat
  /-- The depth of what stands to the left of the last set operator. -/
  left : Option Nat
  deriving DecidableEq, Repr

/-- The depth of a class up to here, without its brackets. -/
def OpenClass.depth (cls : OpenClass) : Nat :=
  match cls.left with
  | none => beside cls.members
  | some left => 1 + max left (beside cls.members)

def OpenClass.add (cls : OpenClass) (depth : Nat) : OpenClass :=
  { cls with members := depth :: cls.members }

/-- Names of the classes written between brackets and colons. -/
def classNames : List String :=
  ["alnum", "alpha", "ascii", "blank", "cntrl", "digit", "graph", "lower", "print", "punct",
    "space", "upper", "word", "xdigit"]

/-- After an opening bracket: a named class, up to its closing bracket. -/
def namedClass? : List Char → Option (List Char)
  | ':' :: text =>
      let text := match text with
        | '^' :: text => text
        | text => text
      let name := text.takeWhile (· ≠ ':')
      match text.dropWhile (· ≠ ':') with
      | ':' :: ']' :: rest => if String.ofList name ∈ classNames then some rest else none
      | _ => none
  | _ => none

/-- Dashes at the start of a class stand for themselves. -/
def leadingDashes (mode : Mode) : Nat → OpenClass → List Char → OpenClass × List Char
  | fuel + 1, cls, '-' :: rest => leadingDashes mode fuel (cls.add 0) (mode.skip rest)
  | _, cls, text => (cls, text)

/-- After an opening bracket: the start of a class. -/
def openClass? (mode : Mode) (text : List Char) : Option (OpenClass × List Char) :=
  let body? := match mode.skip text with
    | '^' :: rest => if mode.unicode then some (mode.skip rest) else none
    | text => some text
  body?.map fun body =>
    match leadingDashes mode body.length ⟨[], none⟩ body with
    | (⟨[], left⟩, ']' :: rest) => (⟨[0], left⟩, mode.skip rest)
    | start => start

def classElement? (mode : Mode) : List Char → Option (Element × List Char)
  | [] => none
  | '\\' :: rest => escape? mode rest
  | c :: rest => some (.character c.toNat, rest)

def Element.isMember (mode : Mode) : Element → Bool
  | .character codePoint => mode.unicode || codePoint < 0x80
  | .set => true
  | .position => false

/-- A member of a class: an element, or a range of characters. -/
def member? (mode : Mode) (text : List Char) : Option (List Char) := do
  let (first, rest) ← classElement? mode text
  guard (first.isMember mode)
  match mode.skip rest with
  | '-' :: after =>
      match mode.skip after with
      | ']' :: _ | '-' :: _ => return '-' :: after
      | after =>
          let (last, rest) ← classElement? mode after
          match first, last with
          | .character low, .character high =>
              guard (last.isMember mode ∧ low ≤ high)
              return rest
          | _, _ => none
  | rest => return rest

/-- The rest of a class: its depth and what follows its closing bracket.  The classes around it
that are still open come with it. -/
def class? (mode : Mode) : Nat → OpenClass → List OpenClass → List Char →
    Option (Nat × List Char)
  | 0, _, _, _ => none
  | fuel + 1, cls, outer, text =>
      let apart rest := class? mode fuel ⟨[], some cls.depth⟩ outer rest
      match mode.skip text with
      | [] => none
      | '[' :: rest =>
          match namedClass? rest with
          | some rest => class? mode fuel (cls.add 0) outer rest
          | none =>
              (openClass? mode rest).bind fun (inner, rest) =>
                class? mode fuel inner (cls :: outer) rest
      | ']' :: rest =>
          match outer with
          | [] => some (1 + cls.depth, rest)
          | around :: outer => class? mode fuel (around.add (1 + cls.depth)) outer rest
      | '&' :: '&' :: rest => apart rest
      | '-' :: '-' :: rest => apart rest
      | '~' :: '~' :: rest => apart rest
      | text => (member? mode text).bind fun rest => class? mode fuel (cls.add 0) outer rest

/-- Flags, up to the colon or the closing parenthesis: what the mode becomes, whether there are
flags at all, which have been met, and whether the last sign was a dash. -/
def flags? (mode : Mode) (negated : Bool) : List Char → List Char →
    Option (Mode × Bool × List Char)
  | _, [] => none
  | met, c :: rest =>
      if c = ':' ∨ c = ')' then
        if met.head? = some '-' then none else some (mode, met ≠ [], c :: rest)
      else if met.contains c ∨ !"-imsUuRx".toList.contains c then none
      else
        let mode :=
          if c = 'x' then { mode with spaced := !negated }
          else if c = 'u' then { mode with unicode := !negated }
          else mode
        flags? mode (negated || c = '-') (c :: met) rest

/-- Whether a character may stand in the name of a group. -/
def isNameCharacter (first : Bool) (c : Char) : Bool :=
  c = '_' || (if first then Unicode.isAlphabetic c
    else Unicode.isAlphanumeric c || ".[]".toList.contains c)

/-- The name of a group, up to the angle bracket. -/
def name? (text : List Char) : Option (String × List Char) :=
  let name := text.takeWhile (· ≠ '>')
  match name, text.dropWhile (· ≠ '>') with
  | first :: others, '>' :: rest =>
      if isNameCharacter true first ∧ others.all (isNameCharacter false) then
        some (String.ofList name, rest)
      else none
  | _, _ => none

/-- A group whose closing parenthesis has not come yet. -/
structure OpenGroup where
  /-- The mode inside. -/
  mode : Mode
  /-- The depths of the parts of the current branch, the last first; settings of flags have none. -/
  parts : List (Option Nat)
  /-- The depths of the branches before. -/
  branches : List Nat
  deriving DecidableEq, Repr

namespace OpenGroup

def add (group : OpenGroup) (part : Option Nat) : OpenGroup :=
  { group with parts := part :: group.parts }

def branch (group : OpenGroup) : Nat := beside (group.parts.map (·.getD 0))

def depth (group : OpenGroup) : Nat :=
  match group.branches with
  | [] => group.branch
  | branches => beside (group.branch :: branches)

end OpenGroup

/-- An expression that has been read up to some point. -/
structure Reading where
  group : OpenGroup
  outer : List OpenGroup
  /-- The names given to groups. -/
  names : List String
  deriving DecidableEq, Repr

namespace Reading

def initial : Reading := ⟨⟨.initial, [], []⟩, [], []⟩

def add (reading : Reading) (part : Option Nat) : Reading :=
  { reading with group := reading.group.add part }

def enter (reading : Reading) (mode : Mode) : Reading :=
  { reading with group := ⟨mode, [], []⟩, outer := reading.group :: reading.outer }

def enterNamed? (reading : Reading) (text : List Char) : Option (Reading × List Char) :=
  (name? text).bind fun (name, rest) =>
    if name ∈ reading.names then none
    else some ({ reading.enter reading.group.mode with names := name :: reading.names }, rest)

def open? (reading : Reading) (text : List Char) : Option (Reading × List Char) :=
  let mode := reading.group.mode
  match mode.skip text with
  | '?' :: '=' :: _ | '?' :: '!' :: _ | '?' :: '<' :: '=' :: _ | '?' :: '<' :: '!' :: _ => none
  | '?' :: 'P' :: '<' :: rest => reading.enterNamed? rest
  | '?' :: '<' :: rest => reading.enterNamed? rest
  | '?' :: rest =>
      match flags? mode false [] rest with
      | some (mode, given, ')' :: rest) =>
          if given then
            some ({ reading with group := { reading.group with mode }.add none }, rest)
          else none
      | some (mode, _, _ :: rest) => some (reading.enter mode, rest)
      | _ => none
  | rest => some (reading.enter mode, rest)

def close? (reading : Reading) : Option Reading :=
  match reading.outer with
  | [] => none
  | around :: outer =>
      some { reading with group := around.add (some (1 + reading.group.depth)), outer }

def repeat? (reading : Reading) : Option Reading :=
  match reading.group.parts with
  | some depth :: parts =>
      some { reading with group := { reading.group with parts := some (depth + 1) :: parts } }
  | _ => none

def alternate (reading : Reading) : Reading :=
  let group := reading.group
  { reading with group := ⟨group.mode, [], group.branch :: group.branches⟩ }

/-- How deep parts may lie within each other. -/
def depthLimit : Nat := 250

/-- Whether the rest of a text completes an expression. -/
def completes (reading : Reading) : Nat → List Char → Bool
  | 0, _ => false
  | fuel + 1, text =>
      let mode := reading.group.mode
      match mode.skip text with
      | [] => reading.outer = [] && reading.group.depth ≤ depthLimit
      | '(' :: rest => (reading.open? rest).any fun (next, rest) => next.completes fuel rest
      | ')' :: rest => reading.close?.any fun next => next.completes fuel rest
      | '|' :: rest => reading.alternate.completes fuel rest
      | '[' :: rest =>
          ((openClass? mode rest).bind fun (cls, rest) => class? mode fuel cls [] rest).any
            fun (depth, rest) => (reading.add (some depth)).completes fuel rest
      | '\x7b' :: _ => false
      | '\\' :: rest =>
          (escape? mode rest).any fun (_, rest) => (reading.add (some 0)).completes fuel rest
      | '.' :: rest => mode.unicode && (reading.add (some 0)).completes fuel rest
      | c :: rest =>
          if c = '?' ∨ c = '*' ∨ c = '+' then
            let rest := match rest with
              | '?' :: rest => rest
              | rest => rest
            reading.repeat?.any fun next => next.completes fuel rest
          else (reading.add (some 0)).completes fuel rest

end Reading

/-- Whether a text without braces is an expression. -/
def isExpression (text : List Char) : Bool := Reading.initial.completes (text.length + 1) text

-- A value that reads as a number is compared as one and need not be an expression; that makes a
-- difference only where a plus sign would repeat nothing.

/-- Digits with at most one point among them, and an exponent perhaps. -/
def isUnsignedNumber (text : List Char) : Bool :=
  let whole := text.takeWhile Char.isDigit
  let (fraction, rest) := match text.dropWhile Char.isDigit with
    | '.' :: rest => (rest.takeWhile Char.isDigit, rest.dropWhile Char.isDigit)
    | rest => ([], rest)
  let exponent := match rest with
    | [] => true
    | c :: rest =>
        let digits := match rest with
          | '+' :: digits => digits
          | '-' :: digits => digits
          | digits => digits
        (c = 'e' || c = 'E') && digits ≠ [] && digits.all Char.isDigit
  (whole ≠ [] || fraction ≠ []) && exponent

def isSignedNumber : List Char → Bool
  | '+' :: text =>
      isUnsignedNumber text
        || ["inf", "infinity", "nan"].contains (String.ofList (text.map Char.toLower))
  | _ => false

def isComparable (text : List Char) : Bool :=
  isSignedNumber text || isExpression text

end EditorBridge.Logging.Pattern
