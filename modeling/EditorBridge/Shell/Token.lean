import EditorBridge.Shell.Syntax

/-!
# Tokens of the shell

A reader goes through a text from the front and keeps what the grammar needs to know beyond it: the
line, the token read last, which may be read again, the texts announced on the line, and the aliases
that are being replaced.

A text that an alias stands for is put in front of what is left, with a mark behind it.  As long as
the mark has not been read the alias stands for itself, so that replacing comes to an end.
-/
namespace EditorBridge.Shell

/-- A redirection before its target is known. -/
inductive Redirecting where
  | file (access : Access)
  | copy
  /-- A text on the lines below; leading tabs may be left out. -/
  | text (dropTabs : Bool)

/-- What a text is made of for the grammar. -/
inductive Token where
  | endOfFile
  | newline
  | semicolon
  | ampersand
  | andAnd
  | orOr
  | bar
  | openParen
  | closeParen
  | doubleSemicolon
  | redirection (descriptor : Nat) (kind : Redirecting)
  | word (parts : Word)
  | keyword (name : String)

namespace Token

/-- Words with a meaning of their own where a command may start. -/
def keywords : List String :=
  ["!", "case", "do", "done", "elif", "else", "esac", "fi", "for", "if", "in", "then", "until",
    "while", "\x7b", "\x7d"]

def shown : Token → String
  | endOfFile => "end of file"
  | newline => "newline"
  | semicolon => "\";\""
  | ampersand => "\"&\""
  | andAnd => "\"&&\""
  | orOr => "\"||\""
  | bar => "\"|\""
  | openParen => "\"(\""
  | closeParen => "\")\""
  | doubleSemicolon => "\";;\""
  | redirection _ _ => "redirection"
  | word _ => "word"
  | keyword name => "\"" ++ name ++ "\""

def isKeyword (name : String) : Token → Bool
  | keyword other => other = name
  | _ => false

/-- Whether a list of commands ends before a token. -/
def endsList : Token → Bool
  | endOfFile | closeParen | doubleSemicolon => true
  | keyword name =>
      ["do", "done", "elif", "else", "esac", "fi", "then", "\x7d"].contains name
  | _ => false

def agrees : Token → Token → Bool
  | endOfFile, endOfFile | newline, newline | semicolon, semicolon | ampersand, ampersand
  | andAnd, andAnd | orOr, orOr | bar, bar | openParen, openParen | closeParen, closeParen
  | doubleSemicolon, doubleSemicolon | word _, word _ => true
  | keyword a, keyword b => a = b
  | _, _ => false

end Token

structure Check where
  /-- Ends of lines are passed over. -/
  newlines : Bool
  keywords : Bool
  aliases : Bool
  /-- A word is the end mark of a text, in which nothing is expanded. -/
  endMark : Bool

namespace Check

def nothing : Check := ⟨false, false, false, false⟩

/-- Aliases only. -/
def replaced : Check := ⟨false, false, true, false⟩

def command : Check := ⟨false, true, true, false⟩

/-- What starts a command, perhaps on a later line. -/
def commandBelow : Check := ⟨true, true, true, false⟩

/-- Keywords, perhaps on a later line. -/
def keywordBelow : Check := ⟨true, true, false, false⟩

def mark : Check := ⟨false, false, false, true⟩

end Check

structure Announced where
  number : Nat
  mark : Raw
  dropTabs : Bool
  /-- Whether nothing in it is expanded. -/
  verbatim : Bool

/-- What is left of a text, and what has been found out. -/
structure Reader where
  text : Raw
  line : Nat
  last : Token
  /-- Whether the last token is to be read again. -/
  again : Bool
  /-- The parts of the last word. -/
  word : Word
  check : Check
  announced : List Announced
  texts : Texts
  nextText : Nat
  aliases : List (Raw × Raw)
  /-- The aliases whose mark has not been read, the innermost first. -/
  replaced : List (Raw × Raw)

/-- Why a text is no command. -/
inductive Flaw where
  | wrong (line : Nat) (message : String)
  /-- The text goes deeper than anything is read. -/
  | tooDeep

/-- Reading takes characters from the front of a text, and may fail. -/
abbrev Reading := StateT Reader (Except Flaw)

namespace Reading

/-- The text is no command, for some reason. -/
def refuse {α : Type} (message : String) : Reading α := do
  throw (.wrong (← get).line message)

/-- The last token is not what should come, perhaps a certain other one. -/
def unexpected {α : Type} (expected : Option Token) : Reading α := do
  let found := "Syntax error: " ++ (← get).last.shown ++ " unexpected"
  match expected with
  | some token => refuse (found ++ " (expecting " ++ token.shown ++ ")")
  | none => refuse found

/-- The mark behind the text of an alias; no byte is this character. -/
def aliasEnd : Char := '\u0100'

/-- Take a mark: its alias may be replaced again.  When the text of the alias ended with a blank,
the next word may be an alias, too. -/
def passAliasEnd : Reading Unit := modify fun reader =>
  match reader.replaced with
  | [] => reader
  | (_, value) :: rest =>
      let goesOn := value.getLast?.any fun c => c = ' ' || c = '\t'
      { reader with
        replaced := rest
        check := { reader.check with aliases := reader.check.aliases || goesOn } }

/-- A text without joined lines at its start, and how many there were. -/
def joined : Nat → Raw → Nat × Raw
  | lines, '\\' :: '\n' :: rest => joined (lines + 1) rest
  | lines, text => (lines, text)

/-- Join the line with the next one where a backslash says so. -/
def join : Reading Unit := modify fun reader =>
  match reader.text with
  | '\\' :: '\n' :: _ =>
      let (lines, text) := joined 0 reader.text
      { reader with text, line := reader.line + lines }
  | _ => reader

/-- The next character, if there is one. -/
def peek : Reading (Option Char) := return (← get).text.head?

/-- The next character after lines have been joined. -/
def peekJoined : Reading (Option Char) := do
  join
  peek

def advance : Reading Unit := modify fun reader =>
  match reader.text with
  | [] => reader
  | c :: text => { reader with text, line := if c = '\n' then reader.line + 1 else reader.line }

/-- Take characters as long as they are of a kind, none of which ends a line. -/
def takeWhile (kind : Char → Bool) : Reading Raw := do
  let reader ← get
  let taken := reader.text.takeWhile kind
  set { reader with text := reader.text.drop taken.length }
  return taken

def takeJoined (kind : Char → Bool) : Nat → Reading Raw
  | 0 => return []
  | fuel + 1 => do
      join
      match ← takeWhile kind with
      | [] => return []
      | taken => return taken ++ (← takeJoined kind fuel)

/-- Take a character if it comes next after lines have been joined. -/
def accept (c : Char) : Reading Bool := do
  if (← peekJoined) = some c then
    advance
    return true
  else return false

/-- Look for something when the next token is read. -/
def look (check : Check) : Reading Unit := modify fun reader => { reader with check }

def pushBack : Reading Unit := modify fun reader => { reader with again := true }

def found (token : Token) : Reading Token := do
  modify fun reader => { reader with last := token }
  return token

/-- Skip blanks, ends of aliases and comments. -/
def skipBlanks : Nat → Reading Unit
  | 0 => return ()
  | fuel + 1 => do
      match ← peekJoined with
      | some c =>
          if c = ' ' || c = '\t' then do
            let _ ← takeWhile fun c => c = ' ' || c = '\t'
            skipBlanks fuel
          else if c = aliasEnd then do
            advance
            passAliasEnd
            skipBlanks fuel
          else if c = '#' then do
            let _ ← takeWhile (· ≠ '\n')
            skipBlanks fuel
      | none => return ()

def redirecting (sign : Char) : Reading Redirecting := do
  if sign = '>' then
    if ← accept '>' then return .file .append
    else if ← accept '|' then return .file .overwrite
    else if ← accept '&' then return .copy
    else return .file .write
  else if ← accept '<' then return .text (← accept '-')
  else if ← accept '&' then return .copy
  else if ← accept '>' then return .file .both
  else return .file .read

/-- An operator, if one comes next. -/
def operator? : Reading (Option Token) := do
  match ← peek with
  | none => return some .endOfFile
  | some '\n' => do advance; return some .newline
  | some '&' => do advance; return some (if ← accept '&' then .andAnd else .ampersand)
  | some '|' => do advance; return some (if ← accept '|' then .orOr else .bar)
  | some ';' => do advance; return some (if ← accept ';' then .doubleSemicolon else .semicolon)
  | some '(' => do advance; return some .openParen
  | some ')' => do advance; return some .closeParen
  | _ => return none

/-- The keyword that a word is, if keywords are looked for. -/
def keyword? (check : Check) (parts : Word) : Option String :=
  if check.keywords then
    (Word.literal? parts).bind fun text => Token.keywords.find? fun name => name.toList = text
  else none

/-- The alias that a word is and what it stands for, if aliases are looked for and this one is not
being replaced. -/
def alias? (check : Check) (parts : Word) : Reading (Option (Raw × Raw)) := do
  if !check.aliases then return none
  let reader ← get
  match Word.literal? parts with
  | none => return none
  | some text =>
      if reader.replaced.any (·.1 = text) then return none
      else return (reader.aliases.lookup text).map fun value => (text, value)

/-- Put the text of an alias in front. -/
def replace (name value : Raw) : Reading Unit := do
  unless value = [] do
    modify fun reader =>
      { reader with
        text := value ++ aliasEnd :: reader.text
        replaced := (name, value) :: reader.replaced }

def announce (mark : Raw) (dropTabs verbatim : Bool) : Reading Nat := do
  let number := (← get).nextText
  modify fun reader =>
    { reader with
      nextText := number + 1
      announced := reader.announced ++ [⟨number, mark, dropTabs, verbatim⟩] }
  return number

def keep (number : Nat) (text : Word) : Reading Unit :=
  modify fun reader => { reader with texts := (number, text) :: reader.texts }

/-- Whether the end mark stands alone on the line ahead; if so, it is taken. -/
def acceptMark (announced : Announced) : Reading Bool := do
  if announced.dropTabs then let _ ← takeWhile (· = '\t')
  let reader ← get
  let line := reader.text.takeWhile (· ≠ '\n')
  if line = announced.mark then
    set { reader with text := reader.text.drop (line.length + 1), line := reader.line + 1 }
    return true
  else return reader.text = []

def verbatimLines (announced : Announced) : Nat → Reading Raw
  | 0 => throw .tooDeep
  | fuel + 1 => do
      if ← acceptMark announced then return []
      let line ← takeWhile (· ≠ '\n')
      match ← peek with
      | some _ => do
          advance
          return line ++ '\n' :: (← verbatimLines announced fuel)
      | none => return line

end Reading

end EditorBridge.Shell
