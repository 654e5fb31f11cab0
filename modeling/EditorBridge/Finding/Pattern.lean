import EditorBridge.Finding.Report

/-!
# The pattern of report lines

The form of a report line as a pattern, with the texts that its groups catch.  The ways in which a
pattern matches from a place on are listed in the order of preference, so that the match is the
first of them: of two alternatives the one on the left comes first, a run takes as much as it can,
and a lazy run as little.
-/
namespace EditorBridge

open EditorBridge.Unicode

/-- A pattern of texts.  Only single characters are repeated. -/
inductive Pattern where
  | nothing
  /-- The end of the text. -/
  | finish
  | one (admits : Char → Bool)
  | run (lazily : Bool) (admits : Char → Bool)
  | both (first second : Pattern)
  | either (first second : Pattern)
  | group (name : String) (body : Pattern)

namespace Pattern

/-- What the groups that took part in a match have caught. -/
abbrev Groups := List (String × List Char)

/-- A way to match: the text taken, what the groups caught of it, and what follows. -/
structure Way where
  taken : List Char
  groups : Groups
  rest : List Char
  deriving DecidableEq, Repr

namespace Way

def stay (s : List Char) : Way := ⟨[], [], s⟩

def behind (c : Char) (way : Way) : Way := { way with taken := c :: way.taken }

def andThen (first second : Way) : Way :=
  ⟨first.taken ++ second.taken, first.groups ++ second.groups, second.rest⟩

def named (name : String) (way : Way) : Way :=
  { way with groups := (name, way.taken) :: way.groups }

@[simp] theorem taken_stay (s : List Char) : (stay s).taken = [] := rfl

@[simp] theorem groups_stay (s : List Char) : (stay s).groups = [] := rfl

@[simp] theorem rest_stay (s : List Char) : (stay s).rest = s := rfl

@[simp] theorem taken_behind (c : Char) (way : Way) : (way.behind c).taken = c :: way.taken := rfl

@[simp] theorem groups_behind (c : Char) (way : Way) : (way.behind c).groups = way.groups := rfl

@[simp] theorem rest_behind (c : Char) (way : Way) : (way.behind c).rest = way.rest := rfl

@[simp] theorem taken_andThen (first second : Way) :
    (first.andThen second).taken = first.taken ++ second.taken := rfl

@[simp] theorem rest_andThen (first second : Way) :
    (first.andThen second).rest = second.rest := rfl

@[simp] theorem groups_andThen (first second : Way) :
    (first.andThen second).groups = first.groups ++ second.groups := rfl

@[simp] theorem taken_named (name : String) (way : Way) : (way.named name).taken = way.taken := rfl

@[simp] theorem rest_named (name : String) (way : Way) : (way.named name).rest = way.rest := rfl

@[simp] theorem groups_named (name : String) (way : Way) :
    (way.named name).groups = (name, way.taken) :: way.groups := rfl

end Way

/-- The ways to take characters of a set, none at all included. -/
def runs (lazily : Bool) (admits : Char → Bool) : List Char → List Way
  | [] => [.stay []]
  | c :: s =>
      let longer := if admits c then (runs lazily admits s).map (.behind c) else []
      if lazily then .stay (c :: s) :: longer else longer ++ [.stay (c :: s)]

/-- The ways in which a pattern matches at the start of a text, the preferred ones first. -/
def ways : Pattern → List Char → List Way
  | nothing, s => [.stay s]
  | finish, [] => [.stay []]
  | finish, _ :: _ => []
  | one _, [] => []
  | one admits, c :: s => if admits c then [⟨[c], [], s⟩] else []
  | run lazily admits, s => runs lazily admits s
  | both first second, s =>
      (first.ways s).flatMap fun way => (second.ways way.rest).map way.andThen
  | either first second, s => first.ways s ++ second.ways s
  | group name body, s => (body.ways s).map (.named name)

/-- What the groups of a pattern catch in a text, from its start on. -/
def captures? (pattern : Pattern) (s : List Char) : Option Groups :=
  (pattern.ways s).head?.map Way.groups

def text (s : String) : Pattern := s.toList.foldr (fun c => both (one (· = c))) nothing

def optional (pattern : Pattern) : Pattern := either pattern nothing

def several (lazily : Bool) (admits : Char → Bool) : Pattern :=
  both (one admits) (run lazily admits)

def isInLine (c : Char) : Bool := c ≠ '\n'

/-- A number and the colon after it: `(?P<name>\d+):`. -/
def number (name : String) : Pattern :=
  both (group name (several false isDecimalDigit)) (text ":")

def position (line column : String) : Pattern := both (number line) (number column)

/-- Perhaps the end of a finding, then a blank: `(?:(?P<end_line>\d+):(?P<end_col>\d+):)? `. -/
def stop : Pattern := both (optional (position "end_line" "end_col")) (text " ")

/-- A severity, a colon and a blank: `(?P<severity>error|warning|note|baseline): `. -/
def severity : Pattern :=
  both (group "severity" (either (text "error") (either (text "warning")
    (either (text "note") (text "baseline"))))) (text ": ")

/-- A code in brackets: ` {2}\[(?P<code>[\w-]+)\]`. -/
def bracketed : Pattern :=
  both (text "  [") (both (group "code" (several false Report.isCodeCharacter)) (text "]"))

/-- Perhaps a code, then the end of the text. -/
def ending : Pattern := both (optional bracketed) finish

/-- A message, which starts with no white space, and what may follow it: `(?P<message>\S.*?)`. -/
def message : Pattern :=
  both (group "message" (both (one fun c => !isWhiteSpace c) (run true isInLine))) ending

/-- What comes after the path of a report line. -/
def remainder : Pattern :=
  both (text ":") (both (position "line" "col") (both stop (both severity message)))

/-- A report line: `^(?P<path>.+?):`, two numbers, an end, a severity and a message, as above. -/
def reportLine : Pattern := both (group "path" (several true isInLine)) remainder

end Pattern

namespace Finding

/-- The finding that the groups of a report line stand for.  A start must be given in numbers of 32
bits; an end that is not is left out. -/
def ofGroups? (groups : Pattern.Groups) : Option Finding := do
  let number (name : String) := groups.lookup name >>= Report.word?
  let path ← groups.lookup "path"
  let line ← number "line"
  let column ← number "col"
  let label ← groups.lookup "severity"
  let severity ← Severity.all.find? fun severity => severity.name.toList = label
  let message ← groups.lookup "message"
  return {
    path := String.ofList path
    line
    column
    stop := do return (← number "end_line", ← number "end_col")
    severity
    message := String.ofList message
    code := (groups.lookup "code").map String.ofList }

end Finding

end EditorBridge
