import EditorBridge.Logging.Pattern
import EditorBridge.Logging.Record
import EditorBridge.Text.Trim
import EditorBridge.Unicode.Alphanumeric

/-!
# Directives

The directives of the `tracing-subscriber` library's filters, which is the language of `RUST_LOG`.

A directive says up to which level records are admitted, from which origins, and with which fields:
`info`, `origin=debug`, `origin[span{field}]=trace`.  A level alone holds for all origins; an
origin alone admits every level.  A directive that names a span, or asks a field for a value, never
applies: the bridge's records belong to no span.
-/
namespace EditorBridge.Logging

/-- The level up to which records are admitted, if any are. -/
abbrev Threshold := Option Level

namespace Threshold

def admits (threshold : Threshold) (level : Level) : Bool :=
  threshold.any fun limit => level.rank ≤ limit.rank

def ofNumber? : Nat → Option Threshold
  | 0 => some none
  | 1 => some (some .error)
  | 2 => some (some .warn)
  | 3 => some (some .info)
  | 4 => some (some .debug)
  | 5 => some (some .trace)
  | _ => none

def names : List (String × Threshold) :=
  [("", some .error), ("error", some .error), ("warn", some .warn), ("info", some .info),
    ("debug", some .debug), ("trace", some .trace), ("off", none)]

/-- A number, with or without a plus sign. -/
def number? (text : List Char) : Option Nat :=
  let digits := match text with
    | '+' :: digits => digits
    | digits => digits
  if digits ≠ [] ∧ digits.all Char.isDigit then
    some (digits.foldl (fun n c => n * 10 + (c.toNat - '0'.toNat)) 0)
  else none

/-- The threshold that a text stands for, in upper or lower case. -/
def parse? (text : List Char) : Option Threshold :=
  ((number? text).bind ofNumber?).or (names.lookup (String.ofList (text.map Char.toLower)))

end Threshold

structure Directive where
  /-- How the names of the origins start that are meant; all are when this is missing. -/
  target : Option String
  /-- Whether spans or the values of fields are meant, which no record has. -/
  spanned : Bool
  /-- The field that a record must have, if any. -/
  field : Option String
  threshold : Threshold
  deriving DecidableEq, Repr

namespace Directive

/-- A directive without any condition. -/
def all (threshold : Threshold) : Directive := ⟨none, false, none, threshold⟩

-- Positions are counted in bytes from the first character that is not blank, while texts are cut
-- out of the directive as it was written.  So blanks before a directive are no harmless
-- decoration: they shift every text in it.

def before : Nat → List Char → List Char
  | 0, _ => []
  | _, [] => []
  | n + 1, c :: rest => c :: before (n + 1 - c.utf8Size) rest

def onward : Nat → List Char → List Char
  | 0, text => text
  | _, [] => []
  | n + 1, c :: rest => onward (n + 1 - c.utf8Size) rest

/-- The text between two positions. -/
def cut (written : List Char) (start stop : Nat) : List Char := onward start (before stop written)

/-- The threshold written after an equals sign; everything when there is none. -/
def thresholdFrom? (written : List Char) (start : Nat) : Option Threshold :=
  match onward start written with
  | [] => some (some .trace)
  | text => Threshold.parse? text

/-- After the brackets of a span: a threshold or nothing. -/
def afterSpan? (written : List Char) (directive : Directive) (position : Nat) :
    List Char → Option Directive
  | [] => some directive
  | '=' :: _ =>
      (thresholdFrom? written (position + 1)).map fun threshold => { directive with threshold }
  | _ => none

/-- Inside braces: a field, up to the closing brace and bracket. -/
def inField? (written : List Char) (directive : Directive) (start position : Nat) :
    List Char → Option Directive
  | '}' :: ']' :: rest =>
      let text := cut written start position
      let value := (text.dropWhile (· ≠ '=')).drop 1
      if text = [] ∨ !Pattern.isComparable (value.takeWhile (· ≠ '=')) then none
      else
        let name := String.ofList (text.takeWhile (· ≠ '='))
        afterSpan? written { directive with
          field := some name
          spanned := directive.spanned || text.contains '=' } (position + 2) rest
  | '}' :: _ => none
  | c :: rest => inField? written directive start (position + c.utf8Size) rest
  | [] => none

/-- Inside brackets: the name of a span, up to the closing bracket or the opening brace. -/
def inSpan? (written : List Char) (directive : Directive) (start position : Nat) :
    List Char → Option Directive
  | ']' :: rest => afterSpan? written { directive with spanned := true } (position + 1) rest
  | '{' :: rest =>
      let named := cut written start position ≠ []
      inField? written { directive with spanned := named } (position + 1) (position + 1) rest
  | c :: rest => inSpan? written directive start (position + c.utf8Size) rest
  | [] => none

/-- In the first word: the name of an origin, or a threshold when nothing follows. -/
def inWord? (written : List Char) (position : Nat) : List Char → Option Directive
  | [] =>
      match Threshold.parse? written with
      | some threshold => some (all threshold)
      | none => some { all (some .trace) with target := some (String.ofList written) }
  | '=' :: _ =>
      (thresholdFrom? written (position + 1)).map fun threshold =>
        { all threshold with target := some (String.ofList (cut written 0 position)) }
  | '[' :: rest =>
      inSpan? written
        { all (some .trace) with target := some (String.ofList (cut written 0 position)) }
        (position + 1) (position + 1) rest
  | c :: rest => inWord? written (position + c.utf8Size) rest

/-- Whether a name of an origin may start with a character. -/
def startsWord (c : Char) : Bool := c = '-' || c = ':' || c = '_' || Unicode.isAlphanumeric c

def parse? (written : List Char) : Option Directive :=
  match Text.trim written with
  | [] => none
  | '[' :: rest => inSpan? written (all (some .trace)) 1 1 rest
  | c :: rest => if startsWord c then inWord? written c.utf8Size rest else none

def concerns (directive : Directive) (record : Record) : Bool :=
  !directive.spanned
    && directive.target.all (fun target => target.toList.isPrefixOf record.origin.name.toList)
    && directive.field.all fun name =>
        name = "message" || record.fields.any fun field => field.name = name

/-- How long a start of an origin's name a directive asks for; to ask for the empty start is more
than to ask for none. -/
def reach (directive : Directive) : Nat :=
  directive.target.elim 0 fun target => target.utf8ByteSize + 1

/-- Whether a directive asks for at least as much as another: for a longer name of an origin, then
for a field rather than none, then for a field that is no earlier in the alphabet. -/
def atLeast (directive other : Directive) : Bool :=
  if directive.reach ≠ other.reach then other.reach < directive.reach
  else match directive.field, other.field with
    | some name, some name' => !(name < name')
    | none, some _ => false
    | _, none => true

end Directive

end EditorBridge.Logging
