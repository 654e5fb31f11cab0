import EditorBridge.Regex.Basic
import EditorBridge.Shell.Pattern

/-!
# Reading regular expressions

There are two ways to write them: in one a backslash makes an operator of a character, in the other
it takes the operator for the character.  Where an operator has nothing to work on, a strict reader
refuses, and a lenient one lets it stand for itself or for nothing.
-/
namespace EditorBridge.Regex

open Shell (Member)

/-- How regular expressions are written. -/
structure Dialect where
  /-- Whether operators need no backslash. -/
  isExtended : Bool
  isStrict : Bool
  ignoresCase : Bool
  deriving DecidableEq, Repr

/-- What is wrong with a regular expression. -/
inductive Fault where
  | invalid
  | bracket
  | openGroup
  | closeGroup
  | repetition
  | count
  | openCount
  | tooBig
  | backslash
  | reference
  | range
  | className
  | collation
  /-- A class between single brackets. -/
  | bareClass
  deriving DecidableEq, Repr

def Fault.message : Fault → String
  | invalid => "Invalid regular expression"
  | bracket => "Unmatched [, [^, [:, [., or [="
  | openGroup => "Unmatched ( or \\("
  | closeGroup => "Unmatched ) or \\)"
  | repetition => "Invalid preceding regular expression"
  | count => "Invalid content of \\\x7b\\\x7d"
  | openCount => "Unmatched \\\x7b"
  | tooBig => "Regular expression too big"
  | backslash => "Trailing backslash"
  | reference => "Invalid back reference"
  | range => "Invalid range end"
  | className => "Invalid character class name"
  | collation => "Invalid collation character"
  | bareClass => "character class syntax is [[:space:]], not [:space:]"

/-- What stands next in a text. -/
inductive Token where
  | character (c : Char)
  | set (admits : Char → Bool)
  | bracket
  | border (kind : Border)
  | openGroup
  | closeGroup
  | alternative
  | repetition (sign : Char) (least : Nat) (most : Option Nat)
  | openCount
  | again (index : Nat)
  | finish

/-- The pieces that an escaped character may be in any dialect. -/
def escapedToken (c : Char) : Token :=
  let isSpace (c : Char) : Bool := Member.isOfClass "space" c
  match c with
  | 'w' => .set Place.isWord
  | 'W' => .set fun c => !Place.isWord c
  | 's' => .set isSpace
  | 'S' => .set fun c => !isSpace c
  | '<' => .border .wordStart
  | '>' => .border .wordEnd
  | 'b' => .border .wordBorder
  | 'B' => .border .noBorder
  | Char.ofNat 96 => .border .textStart
  | '\'' => .border .textEnd
  | c => if '1' ≤ c && c ≤ '9' then .again (c.toNat - 48) else .character c

def operator? (c : Char) : Option Token :=
  match c with
  | '(' => some .openGroup
  | ')' => some .closeGroup
  | '|' => some .alternative
  | '+' => some (.repetition '+' 1 none)
  | '?' => some (.repetition '?' 0 (some 1))
  | '\x7b' => some .openCount
  | _ => none

/-- Whether a dollar sign before a text stands for the end of a line. -/
def isEndSign (dialect : Dialect) (rest : Raw) : Bool :=
  dialect.isExtended || rest.isEmpty || ["\\)".toList, "\\|".toList].contains (rest.take 2)

/-- The next piece of a text, and what comes after it; it is known whether a start of a line may be
meant. -/
def nextToken (dialect : Dialect) (atStart : Bool) : Raw → Except Fault (Token × Raw)
  | [] => .ok (.finish, [])
  | ['\\'] => .error .backslash
  | '\\' :: c :: rest =>
      match if dialect.isExtended then none else operator? c with
      | some token => .ok (token, rest)
      | none => .ok (escapedToken c, rest)
  | '.' :: rest => .ok (.set fun _ => true, rest)
  | '*' :: rest => .ok (.repetition '*' 0 none, rest)
  | '[' :: rest => .ok (.bracket, rest)
  | '^' :: rest =>
      .ok (if dialect.isExtended || atStart then .border .lineStart else .character '^', rest)
  | '$' :: rest => .ok (if isEndSign dialect rest then .border .lineEnd else .character '$', rest)
  | c :: rest =>
      match if dialect.isExtended then operator? c else none with
      | some token => .ok (token, rest)
      | none => .ok (.character c, rest)

/-- A member of a set, as far as it has been read. -/
inductive Item where
  | character (c : Char)
  | class (name : String)

/-- The name after an opening bracket and a sign, up to the sign and a closing bracket. -/
def nameBefore (sign : Char) : Nat → Raw → Except Fault (Raw × Raw)
  | 0, _ => .error .bracket
  | fuel + 1, text =>
      match text with
      | [] => .error .bracket
      | c :: rest =>
          if c = sign && rest.head? = some ']' then .ok ([], rest.drop 1)
          else (nameBefore sign fuel rest).map fun (name, rest) => (c :: name, rest)

/-- The longest name of a class. -/
def nameLimit : Nat := 32

/-- An item of a set, and what comes after it. -/
def item : Raw → Except Fault (Item × Raw)
  | [] => .error .bracket
  | '[' :: sign :: rest =>
      if sign = ':' then do
        let (name, rest) ← nameBefore sign nameLimit rest
        let name := String.ofList name
        if Member.classes.contains name then return (.class name, rest) else throw .className
      else if sign = '=' || sign = '.' then do
        let (name, rest) ← nameBefore sign nameLimit rest
        match name with
        | [c] => return (.character c, rest)
        | _ => throw .collation
      else return (.character '[', sign :: rest)
  | c :: rest => .ok (.character c, rest)

/-- The members of a set up to its closing bracket, and what comes after it. -/
def members : Nat → Bool → Raw → Except Fault (List Member × Raw)
  | 0, _, _ => .error .bracket
  | fuel + 1, isFirst, text => do
      if text.head? = some ']' && !isFirst then return ([], text.drop 1)
      if text.head? = some '-' && !isFirst && 1 < text.length && text[1]? ≠ some ']' then
        throw .range
      let (first, rest) ← item text
      let isRange := rest.head? = some '-' && rest[1]? ≠ some ']'
      if isRange && rest.length = 1 then throw .bracket
      let (member, rest) ←
        if !isRange then pure (match first with
          | .character c => (Member.between c c, rest)
          | .class name => (Member.class name, rest))
        else do
          let (last, rest) ← item (rest.drop 1)
          match first, last with
          | .character first, .character last =>
              if last < first then throw .range
              pure (Member.between first last, rest)
          | _, _ => throw .range
      let (others, rest) ← members fuel false rest
      return (member :: others, rest)

/-- Whether a set looks like a class without its second brackets. -/
def isBareClass (members : List Member) : Bool :=
  let colon := Member.between ':' ':'
  let isSingle : Member → Bool
    | .between first last => first = last
    | .class _ => false
  2 < members.length && members.head? = some colon && members.getLast? = some colon &&
    members.all isSingle && members.any (· ≠ colon)

def otherCase (c : Char) : Char := if c.isUpper then c.toLower else c.toUpper

/-- A set that does not mind the size of letters, if they do not count. -/
def folded (ignoresCase : Bool) (admits : Char → Bool) (c : Char) : Bool :=
  admits c || (ignoresCase && admits (otherCase c))

/-- The set after an opening bracket, and what comes after it. -/
def bracketSet (dialect : Dialect) (text : Raw) : Except Fault ((Char → Bool) × Raw) := do
  let negated := text.head? = some '^'
  let text := if negated then text.drop 1 else text
  if text.isEmpty then throw .invalid
  let (members, rest) ← members (text.length + 1) true text
  if isBareClass members then throw .bareClass
  let admits (c : Char) : Bool := members.any (Member.admits c)
  return (fun c => folded dialect.ignoresCase admits c ≠ negated, rest)

def countLimit : Nat := 32767

/-- The number before a comma or the end of a count; nothing if there are no digits. -/
def countPart (text : Raw) : Option (Option Nat) × Raw :=
  let part := text.takeWhile fun c => c ≠ ',' && c ≠ '\x7d' && c ≠ '\\'
  let rest := text.drop part.length
  if part.isEmpty then (some none, rest)
  else match Raw.nat? part with
    | some n => (some (some n), rest)
    | none => (none, rest)

/-- What a count is after its opening sign. -/
inductive Count where
  | right (least : Nat) (most : Option Nat) (rest : Raw)
  /-- It is no count at all. -/
  | malformed (isOpen : Bool)
  | faulty (fault : Fault)

def closing (dialect : Dialect) : Raw :=
  if dialect.isExtended then ['\x7d'] else ['\\', '\x7d']

def countAfter (dialect : Dialect) (text : Raw) : Count :=
  let sign := closing dialect
  let (first, rest) := countPart text
  let (second, rest) := match rest with
    | ',' :: rest => countPart rest
    | rest => (first, rest)
  let isClosed := sign.isPrefixOf rest
  if first = some none && text.head? ≠ some ',' then
    if rest.isEmpty then .malformed true else .faulty .count
  else match first, second with
    | some first, some second =>
        if !isClosed then .malformed (rest.isEmpty)
        else
          let least := first.getD 0
          if second.any (· < least) then .faulty .count
          else if countLimit < second.getD least then .faulty .tooBig
          else .right least second (rest.drop sign.length)
    | _, _ => .malformed rest.isEmpty

structure Progress where
  rest : Raw
  /-- How many groups have been opened. -/
  opened : Nat
  /-- The groups that have been closed. -/
  closed : List Nat
  /-- What may not be meant so. -/
  warnings : List String
  deriving Repr

abbrev Reading := StateT Progress (Except Fault)

def peek (dialect : Dialect) (atStart : Bool) : Reading (Token × Raw) := do
  let (token, rest) ← nextToken dialect atStart (← get).rest
  return (token, rest)

def goTo (rest : Raw) : Reading Unit := modify fun progress => { progress with rest }

/-- Say that something may not be meant so. -/
def warn (text : String) : Reading Unit :=
  modify fun progress => { progress with warnings := progress.warnings ++ [text] }

def character (dialect : Dialect) (c : Char) : Expression :=
  .one (folded dialect.ignoresCase (· = c))

/-- One after another, none being nothing. -/
def sequence : List Expression → Expression
  | [] => .nothing
  | [last] => last
  | first :: rest => .both first (sequence rest)

def repetitions (dialect : Dialect) : Nat → Bool → Expression → Reading Expression
  | 0, _, expression => return expression
  | fuel + 1, isFirst, expression => do
      let (token, rest) ← peek dialect false
      let refuse : Reading Unit := do
        if !isFirst && dialect.isStrict && !dialect.isExtended then throw .repetition
      match token with
      | .repetition sign least most => do
          if sign = '*' then refuse
          goTo rest
          repetitions dialect fuel false (.repeated expression least most)
      | .openCount => do
          refuse
          match countAfter dialect rest with
          | .right least most rest => do
              goTo rest
              repetitions dialect fuel false (.repeated expression least most)
          | .faulty fault => throw fault
          | .malformed isOpen =>
              if dialect.isExtended && !dialect.isStrict then return expression
              else throw (if isOpen then .openCount else .count)
      | _ => return expression

mutual

def alternatives (dialect : Dialect) (depth : Nat) : Nat → Reading Expression
  | 0 => throw .tooBig
  | fuel + 1 => do
      let first ← branch dialect depth fuel true true []
      let (token, rest) ← peek dialect false
      match token with
      | .alternative => do
          goTo rest
          return .either first (← alternatives dialect depth fuel)
      | _ => return first
termination_by structural fuel => fuel

/-- Expressions one after another; it is known whether this is where a line may start, and whether
there is nothing to be repeated. -/
def branch (dialect : Dialect) (depth : Nat) :
    Nat → Bool → Bool → List Expression → Reading Expression
  | 0, _, _, _ => throw .tooBig
  | fuel + 1, atStart, isBare, before => do
      let (token, rest) ← peek dialect atStart
      let literally (c : Char) : Reading Expression := do
        goTo rest
        let expression ← repetitions dialect rest.length.succ true (character dialect c)
        branch dialect depth fuel false false (before ++ [expression])
      match token with
      | .finish | .alternative => return sequence before
      | .closeGroup =>
          if 0 < depth then return sequence before
          else if dialect.isExtended && !dialect.isStrict then literally ')'
          else throw .closeGroup
      | .character c => literally c
      | .set admits => do
          goTo rest
          let expression ← repetitions dialect rest.length.succ true (.one admits)
          branch dialect depth fuel false false (before ++ [expression])
      | .bracket => do
          let (admits, rest) ← bracketSet dialect rest
          goTo rest
          let expression ← repetitions dialect rest.length.succ true (.one admits)
          branch dialect depth fuel false false (before ++ [expression])
      | .border kind => do
          goTo rest
          branch dialect depth fuel false true (before ++ [.border kind])
      | .again index => do
          if !(← get).closed.contains index then throw .reference
          goTo rest
          let expression ← repetitions dialect rest.length.succ true (.again index)
          branch dialect depth fuel false false (before ++ [expression])
      | .openGroup => do
          let index := (← get).opened + 1
          modify fun progress => { progress with rest, opened := index }
          let body ← alternatives dialect (depth + 1) fuel
          let (token, rest) ← peek dialect false
          match token with
          | .closeGroup => do
              modify fun progress =>
                { progress with rest, closed := index :: progress.closed }
              let expression ← repetitions dialect rest.length.succ true (.group index body)
              branch dialect depth fuel false false (before ++ [expression])
          | _ => throw .openGroup
      | .repetition sign _ _ =>
          if !dialect.isExtended then literally sign
          else if dialect.isStrict then throw .repetition
          else do
            warn (String.ofList [sign] ++ " at start of expression")
            goTo rest
            branch dialect depth fuel false isBare before
      | .openCount =>
          if dialect.isStrict then throw .repetition
          else match countAfter dialect rest with
            | .right _ _ after =>
                if !dialect.isExtended then literally '\x7b'
                else do
                  warn "\x7b...\x7d at start of expression"
                  goTo after
                  branch dialect depth fuel false isBare before
            | _ => literally '\x7b'
termination_by structural fuel => fuel

end

/-- The regular expression that a text is, with what may not be meant so. -/
def read (dialect : Dialect) (ofLines : Bool) (text : Raw) :
    Except Fault (Regex × List String) := do
  let start : Progress := ⟨text, 0, [], []⟩
  let (expression, progress) ← (alternatives dialect 0 (2 * text.length + 4)).run start
  return (⟨expression, ⟨ofLines, dialect.ignoresCase⟩, progress.opened⟩, progress.warnings)

end EditorBridge.Regex
