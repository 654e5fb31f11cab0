import EditorBridge.Text.Raw

/-!
# Shell commands

The command language in which client programs are scripted: words with expansions, simple commands
with assignments and redirections, pipelines, and the compound commands.  A command knows the line
it starts on, which complaints about it show.
-/
namespace EditorBridge.Shell

mutual

inductive Part where
  /-- Characters that may be patterns. -/
  | plain (text : Raw)
  /-- Characters that stand for themselves; none at all still make an argument. -/
  | quoted (text : Raw)
  | parameter (name : Raw) (use : Use) (quoted : Bool)
  /-- The output of a command. -/
  | substitution (body : Command) (quoted : Bool)
  | arithmetic (expression : List Part) (quoted : Bool)

/-- What is done with a parameter.  A colon makes an empty value count as none. -/
inductive Use where
  | value
  | length
  | orElse (colon : Bool) (word : List Part)
  | assign (colon : Bool) (word : List Part)
  | insist (colon : Bool) (word : List Part)
  | instead (colon : Bool) (word : List Part)
  /-- Take a pattern away at one end, the shortest or the longest piece. -/
  | strip (atEnd longest : Bool) (pattern : List Part)
  /-- Nothing that can be done. -/
  | nonsense

inductive Redirection where
  | file (descriptor : Nat) (access : Access) (target : List Part)
  /-- Lead where another descriptor leads, or nowhere. -/
  | copy (descriptor : Nat) (target : List Part)
  /-- Read a text, which is kept under a number. -/
  | text (descriptor number : Nat)

inductive Access where
  | read
  | write
  /-- Write also where files are to be spared. -/
  | overwrite
  | append
  | both

/-- A command. -/
inductive Command where
  /-- No command at all. -/
  | nothing
  | simple (line : Nat) (assignments : List (Raw × List Part)) (words : List (List Part))
      (redirections : List Redirection)
  | redirected (line : Nat) (body : Command) (redirections : List Redirection)
  | subshell (line : Nat) (body : Command) (redirections : List Redirection)
  | background (line : Nat) (body : Command) (redirections : List Redirection)
  | pipeline (stages : List Command) (inBackground : Bool)
  | conjunction (first second : Command)
  | disjunction (first second : Command)
  | sequence (first second : Command)
  | negation (body : Command)
  | conditional (test yes no : Command)
  /-- Repeat while the condition holds, or until it does. -/
  | loop (untilHolds : Bool) (condition body : Command)
  /-- Repeat for each of some words. -/
  | each (line : Nat) (name : Raw) (words : List (List Part)) (body : Command)
  | choice (line : Nat) (word : List Part) (cases : List (List (List Part) × Command))
  | function (name : Raw) (line : Nat) (body : Command)

end

instance : Inhabited Command := ⟨.nothing⟩

abbrev Word := List Part

/-- The texts to read that commands mention, by their numbers. -/
abbrev Texts := List (Nat × Word)

namespace Word

/-- The text of a word that consists of plain characters only. -/
def literal? : Word → Option Raw
  | [] => some []
  | .plain text :: rest => (literal? rest).map (text ++ ·)
  | _ => none

/-- The text of a word without its quotes, and whether there were any. -/
def unquoted : Word → Raw × Bool
  | [] => ([], false)
  | .plain text :: rest => (text ++ (unquoted rest).1, (unquoted rest).2)
  | .quoted text :: rest => (text ++ (unquoted rest).1, true)
  | _ :: rest => unquoted rest

end Word

def startsName (c : Char) : Bool := c.isAlpha || c = '_'

def isNameChar (c : Char) : Bool := c.isAlphanum || c = '_'

def isSpecial (c : Char) : Bool := "@*#?$!-".toList.contains c || c.isDigit

def isName (text : Raw) : Bool := text.head?.any startsName && text.all isNameChar

/-- The commands that no function can be named for: their failures end a shell, and what is assigned
for them stays assigned. -/
def specialBuiltins : List String :=
  [":", ".", "break", "continue", "eval", "exec", "exit", "export", "local", "readonly", "return",
    "set", "shift", "times", "trap", "unset"]

/-- An assignment to a name at the start of a word: the name and the value. -/
def assignment? : Word → Option (Raw × Word)
  | .plain text :: rest =>
      let name := text.takeWhile isNameChar
      match text.drop name.length with
      | '=' :: value =>
          if isName name then some (name, if value = [] then rest else .plain value :: rest)
          else none
      | _ => none
  | _ => none

end EditorBridge.Shell
