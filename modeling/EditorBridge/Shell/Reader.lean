import EditorBridge.Shell.Token

/-!
# Reading shell commands

Commands are read by descent: lists, pipelines, commands, words, and the parts of words, each of
which may hold commands again.  A command ends with its line, so a text can be wrong only from the
line on that is wrong.

Every step down and every step along spends some of an allowance that grows with the length of the
text, so that reading always ends.
-/
namespace EditorBridge.Shell

open Reading

inductive Place where
  /-- Up to a blank or an operator. -/
  | word
  /-- Up to the brace that closes an expansion. -/
  | braces
  /-- Up to a double quote. -/
  | quotes (inBraces : Bool)
  /-- Up to the brace that closes an expansion between double quotes, or in a text; a brace between
  further quotes does not close it. -/
  | quotedBraces (inText inner : Bool)
  /-- Up to the end mark of a text; the flag tells that a line starts here. -/
  | text (announced : Announced) (atStart : Bool)
  /-- Up to two closing parentheses, some others being open. -/
  | arithmetic (depth : Nat)

namespace Place

/-- Whether characters are kept from being patterns. -/
def isQuoted : Place → Bool
  | word | braces => false
  | _ => true

/-- Whether a backslash stays where it is because the next character needs none. -/
def keepsBackslash (c : Char) : Place → Bool
  | word | braces => false
  | quotes inBraces => !("\\`$\"".toList.contains c || (inBraces && c = '}'))
  | quotedBraces _ _ => !"\\`$\"\x7d".toList.contains c
  | text _ _ => !"\\`$".toList.contains c
  | arithmetic _ => !"\\`$\"".toList.contains c

/-- Characters that nothing needs to be done about. -/
def isOrdinary (c : Char) : Place → Bool
  | word => !" \t\n|&;<>()$`\\\"'".toList.contains c && c ≠ aliasEnd
  | braces => !"\n$`\\\"'\x7d".toList.contains c && c ≠ aliasEnd
  | quotes _ | text _ _ => !"\n$`\\\"".toList.contains c && c ≠ aliasEnd
  | quotedBraces _ _ => !"\n$`\\\"\x7d".toList.contains c && c ≠ aliasEnd
  | arithmetic _ => !"\n$`\\()".toList.contains c && c ≠ aliasEnd

def atEnd : Place → Option String
  | word | text _ _ => none
  | braces | quotedBraces true _ => some "Syntax error: Missing '\x7d'"
  | quotes _ | quotedBraces false _ => some "Syntax error: Unterminated quoted string"
  | arithmetic _ => some "Syntax error: Missing '))'"

/-- Where the word of an expansion in braces is read. -/
def inBraces (isPattern : Bool) (place : Place) : Place :=
  if isPattern then braces
  else match place with
    | word | braces => braces
    | text _ _ => quotedBraces true false
    | quotedBraces inText _ => quotedBraces inText false
    | quotes _ | arithmetic _ => quotedBraces false false

end Place

/-- Characters in front of other parts. -/
def Word.cons (place : Place) (text : Raw) (word : Word) : Word :=
  if place.isQuoted then
    match word with
    | .quoted more :: rest => .quoted (text ++ more) :: rest
    | word => .quoted text :: word
  else match word with
    | .plain more :: rest => .plain (text ++ more) :: rest
    | word => .plain text :: word

/-- A word between double quotes.  Alone between them, all arguments may be none at all. -/
def Word.betweenQuotes (word : Word) : Word :=
  match word with
  | [.parameter ['@'] .value _] => word
  | word => .quoted [] :: word

/-- The text up to a closing backquote, without the backslashes that it needs there. -/
def backquoted (inQuotes : Bool) : Nat → Reading Raw
  | 0 => throw .tooDeep
  | fuel + 1 => do
      match ← peekJoined with
      | none => refuse "Syntax error: EOF in backquote substitution"
      | some '`' => do advance; return []
      | some '\\' => do
          advance
          match ← peek with
          | some c => do
              advance
              let dropped := "\\`$".toList.contains c || (inQuotes && c = '"')
              let rest ← backquoted inQuotes fuel
              return if dropped then c :: rest else '\\' :: c :: rest
          | none => refuse "Syntax error: EOF in backquote substitution"
      | some c => do
          advance
          return c :: (← backquoted inQuotes fuel)

def apostrophed : Nat → Reading Raw
  | 0 => throw .tooDeep
  | fuel + 1 => do
      let text ← takeWhile fun c => c ≠ '\'' && c ≠ '\n'
      match ← peek with
      | none => refuse "Syntax error: Unterminated quoted string"
      | some '\n' => do
          advance
          return text ++ '\n' :: (← apostrophed fuel)
      | some _ => do
          advance
          return text

/-- A parameter in braces as it starts: its name, if that is one, and whether its length is meant.
-/
def bracedName (fuel : Nat) : Reading (Option Raw × Bool) := do
  let name : Reading (Option Raw) := do
    match ← peekJoined with
    | some c =>
        if startsName c then return some (← takeJoined isNameChar fuel)
        else if c.isDigit then return some (← takeJoined Char.isDigit fuel)
        else return none
    | none => return none
  match ← name with
  | some name => return (some name, false)
  | none =>
      match ← peekJoined with
      | some '#' => do
          advance
          match ← name with
          | some name => return (some name, true)
          | none => do
              let reader ← get
              match ← peekJoined with
              | some '}' | none => return (some ['#'], false)
              | some c => do
                  advance
                  if (← peekJoined) = some '}' then
                    return (if isSpecial c then some [c] else none, true)
                  else do
                    set reader
                    return (some ['#'], false)
      | some c =>
          if isSpecial c then do
            advance
            return (some [c], false)
          else return (none, false)
      | none => return (none, false)

/-- What is done with a parameter, by the signs after its name, given the word that follows. -/
def bracedUse : Reading (Option (Word → Use) × Bool) := do
  match ← peekJoined with
  | some ':' => do
      advance
      match ← peekJoined with
      | some '-' => do advance; return (some (Use.orElse true), false)
      | some '=' => do advance; return (some (Use.assign true), false)
      | some '?' => do advance; return (some (Use.insist true), false)
      | some '+' => do advance; return (some (Use.instead true), false)
      | some '}' => return (some fun _ => Use.value, false)
      | _ => return (none, false)
  | some '-' => do advance; return (some (Use.orElse false), false)
  | some '=' => do advance; return (some (Use.assign false), false)
  | some '?' => do advance; return (some (Use.insist false), false)
  | some '+' => do advance; return (some (Use.instead false), false)
  | some '%' => do advance; return (some (Use.strip true (← accept '%')), true)
  | some '#' => do advance; return (some (Use.strip false (← accept '#')), true)
  | some '}' => return (some fun _ => Use.value, false)
  | _ => return (none, false)

inductive ListMode where
  /-- It ends with its line. -/
  | line
  /-- It goes on over lines and holds a command at least. -/
  | lines
  /-- It goes on over lines and may be empty. -/
  | optional
  deriving DecidableEq

def Command.after : Command → Command → Command
  | .nothing, second => second
  | first, second => .sequence first second

def Command.toBackground (line : Nat) : Command → Command
  | .pipeline stages _ => .pipeline stages true
  | .redirected line body redirections => .background line body redirections
  | body => .background line body []

def Command.redirect (line : Nat) (redirections : List Redirection) : Command → Command
  | .subshell line body _ => .subshell line body redirections
  | body => if redirections.isEmpty then body else .redirected line body redirections

mutual

/-- The parts of a word up to the end of its place, and whether there were quotes. -/
def readParts (place : Place) : Nat → Reading (Word × Bool)
  | 0 => throw .tooDeep
  | fuel + 1 => do
      if let .text announced true := place then
        if ← acceptMark announced then return ([], false)
      let place := match place with
        | .text announced _ => .text announced false
        | place => place
      let onward (text : Raw) : Reading (Word × Bool) := do
        let (word, quoted) ← readParts place fuel
        return (Word.cons place text word, quoted)
      let literally (c : Char) : Reading (Word × Bool) := do
        advance
        onward [c]
      join
      match ← peek with
      | none =>
          match place.atEnd with
          | some message => refuse message
          | none => return ([], false)
      | some '\n' =>
          match place with
          | .word => return ([], false)
          | .text announced _ => do
              advance
              let (word, quoted) ← readParts (.text announced true) fuel
              return (Word.cons place ['\n'] word, quoted)
          | _ => literally '\n'
      | some '\\' => do
          advance
          match ← peek with
          | none => onward ['\\']
          | some c => do
              advance
              let (word, _) ← readParts place fuel
              let text := if place.keepsBackslash c then ['\\', c] else [c]
              return (.quoted text :: word, true)
      | some '\'' =>
          if place.isQuoted then literally '\''
          else do
            advance
            let text ← apostrophed fuel
            let (word, _) ← readParts place fuel
            return (.quoted text :: word, true)
      | some '"' =>
          match place with
          | .quotes _ => do
              advance
              return ([], true)
          | .quotedBraces inText inner => do
              advance
              readParts (.quotedBraces inText !inner) fuel
          | .text _ _ | .arithmetic _ => literally '"'
          | .word | .braces => do
              advance
              let inBraces := match place with
                | .braces => true
                | _ => false
              let (inner, _) ← readParts (.quotes inBraces) fuel
              let (word, _) ← readParts place fuel
              return (Word.betweenQuotes inner ++ word, true)
      | some '$' => do
          advance
          match ← readDollar place fuel with
          | none => onward ['$']
          | some part => do
              let (word, quoted) ← readParts place fuel
              return (part :: word, quoted)
      | some '`' =>
          if (← get).check.endMark then literally '`'
          else do
            advance
            let text ← backquoted place.isQuoted fuel
            let outer ← get
            set { outer with text, line := 1, again := false, announced := [], replaced := [] }
            let body ← readList .optional fuel
            let inner ← get
            set { outer with texts := inner.texts, nextText := inner.nextText }
            let (word, quoted) ← readParts place fuel
            return (.substitution body place.isQuoted :: word, quoted)
      | some '}' =>
          match place with
          | .braces | .quotedBraces _ false => do
              advance
              return ([], false)
          | _ => literally '}'
      | some '(' =>
          match place with
          | .arithmetic depth => do
              advance
              let (word, quoted) ← readParts (.arithmetic (depth + 1)) fuel
              return (Word.cons place ['('] word, quoted)
          | .word => return ([], false)
          | _ => literally '('
      | some ')' =>
          match place with
          | .arithmetic 0 => do
              advance
              if ← accept ')' then return ([], false) else onward [')']
          | .arithmetic (depth + 1) => do
              advance
              let (word, quoted) ← readParts (.arithmetic depth) fuel
              return (Word.cons place [')'] word, quoted)
          | .word => return ([], false)
          | _ => literally ')'
      | some c => do
          let text ← takeWhile fun c => place.isOrdinary c
          if text ≠ [] then onward text
          else match place with
            | .word => return ([], false)
            | place =>
                if c = aliasEnd then do
                  advance
                  passAliasEnd
                  readParts place fuel
                else literally c
termination_by structural fuel => fuel

/-- What a dollar sign stands for, if it is not itself. -/
def readDollar (place : Place) : Nat → Reading (Option Part)
  | 0 => throw .tooDeep
  | fuel + 1 => do
      if (← get).check.endMark then return none
      let quoted := place.isQuoted
      match ← peekJoined with
      | some '(' => do
          advance
          if ← accept '(' then do
            let (expression, _) ← readParts (.arithmetic 0) fuel
            return some (.arithmetic expression quoted)
          else do
            let outer ← get
            set { outer with again := false, announced := [] }
            let body ← readList .optional fuel
            match ← readToken fuel with
            | .closeParen => do
                modify fun inner => { inner with announced := outer.announced }
                return some (.substitution body quoted)
            | _ => unexpected (some .closeParen)
      | some '{' => do
          advance
          let (name, measured) ← bracedName fuel
          let closed := (← peekJoined) = some '}'
          let finish (use : Word → Use) (isPattern : Bool) : Reading (Option Part) := do
            let (word, _) ← readParts (place.inBraces isPattern) fuel
            return some (.parameter (name.getD []) (use word) quoted)
          match name, measured with
          | none, _ => finish (fun _ => .nonsense) false
          | some _, true => finish (fun _ => if closed then .length else .nonsense) false
          | some _, false => do
              let (use, isPattern) ← bracedUse
              finish (use.getD fun _ => .nonsense) isPattern
      | some c =>
          if startsName c then
            return some (.parameter (← takeJoined isNameChar fuel) .value quoted)
          else if isSpecial c then do
            advance
            return some (.parameter [c] .value quoted)
          else return none
      | none => return none
termination_by structural fuel => fuel

def readAnnounced : Nat → Reading Unit
  | 0 => throw .tooDeep
  | fuel + 1 => do
      match (← get).announced with
      | [] => return ()
      | announced :: rest => do
          modify fun reader => { reader with announced := rest }
          let before := (← get).check
          look .nothing
          if announced.verbatim then
            keep announced.number [.quoted (← verbatimLines announced fuel)]
          else
            keep announced.number (← readParts (.text announced true) fuel).1
          look before
          readAnnounced fuel
termination_by structural fuel => fuel

def readPlainToken : Nat → Reading (Token × Bool)
  | 0 => throw .tooDeep
  | fuel + 1 => do
      if (← get).again then
        modify fun reader => { reader with again := false }
        return ((← get).last, false)
      skipBlanks fuel
      match ← operator? with
      | some token => return (← found token, false)
      | none => do
          let (parts, quoted) ← readParts .word fuel
          let sign ← peek
          let digits := Word.literal? parts
          match sign, quoted, digits with
          | some c, false, some digits =>
              if (c = '<' || c = '>') &&
                  (digits = [] || digits.length = 1 && digits.all Char.isDigit)
              then do
                advance
                let kind ← redirecting c
                let standard := if c = '>' then 1 else 0
                return (← found (.redirection ((Raw.nat? digits).getD standard) kind), false)
              else do
                modify fun reader => { reader with word := parts }
                return (← found (.word parts), false)
          | _, _, _ => do
              modify fun reader => { reader with word := parts }
              return (← found (.word parts), quoted)
termination_by structural fuel => fuel

/-- The next token: a word may be a keyword, or an alias that is replaced. -/
def readToken : Nat → Reading Token
  | 0 => throw .tooDeep
  | fuel + 1 => do
      let check := (← get).check
      let (token, quoted) ← readPlainToken fuel
      match token with
      | .newline =>
          if check.newlines then do
            readAnnounced fuel
            look check
            readToken fuel
          else do
            look .nothing
            return token
      | .word parts => do
          let both := { check with
            keywords := check.keywords || (← get).check.keywords
            aliases := check.aliases || (← get).check.aliases }
          look .nothing
          if quoted then return token
          match keyword? both parts with
          | some name => found (.keyword name)
          | none =>
              match ← alias? both parts with
              | some (name, value) => do
                  replace name value
                  look both
                  readToken fuel
              | none => return token
      | token => do
          look .nothing
          return token
termination_by structural fuel => fuel

def readList (mode : ListMode) : Nat → Reading Command
  | 0 => throw .tooDeep
  | fuel + 1 => return (← readMore mode .nothing fuel).getD .nothing
termination_by structural fuel => fuel

/-- The rest of a list of commands after those given; nothing when a line was asked for and the text
has come to its end. -/
def readMore (mode : ListMode) (before : Command) : Nat → Reading (Option Command)
  | 0 => throw .tooDeep
  | fuel + 1 => do
      look (if mode = .line then .command else .commandBelow)
      let token ← readToken fuel
      match token with
      | .newline => do
          readAnnounced fuel
          return some before
      | .endOfFile => do
          readAnnounced fuel
          pushBack
          match mode, before with
          | .line, .nothing => return none
          | _, _ => return some before
      | _ => do
          pushBack
          if mode = .optional && token.endsList then return some before
          let line := (← get).line
          let command ← readAndOr fuel
          let token ← readToken fuel
          let command := match token with
            | .ampersand => command.toBackground line
            | _ => command
          let next := if mode = .line then mode else .optional
          let all := before.after command
          match token with
          | .endOfFile => do
              readAnnounced fuel
              pushBack
              return some all
          | .newline => do
              pushBack
              readMore next all fuel
          | .ampersand | .semicolon => readMore next all fuel
          | _ =>
              if mode = .line then unexpected none
              else do
                pushBack
                return some all
termination_by structural fuel => fuel

/-- Pipelines connected by `&&` and `||`. -/
def readAndOr : Nat → Reading Command
  | 0 => throw .tooDeep
  | fuel + 1 => do
      let first ← readPipeline fuel
      readConnected first fuel
termination_by structural fuel => fuel

def readConnected (first : Command) : Nat → Reading Command
  | 0 => throw .tooDeep
  | fuel + 1 => do
      match ← readToken fuel with
      | .andAnd => do
          look .commandBelow
          let second ← readPipeline fuel
          readConnected (.conjunction first second) fuel
      | .orOr => do
          look .commandBelow
          let second ← readPipeline fuel
          readConnected (.disjunction first second) fuel
      | _ => do
          pushBack
          return first
termination_by structural fuel => fuel

def readPipeline : Nat → Reading Command
  | 0 => throw .tooDeep
  | fuel + 1 => do
      let negated := (← readToken fuel).isKeyword "!"
      if negated then look .command else pushBack
      let first ← readCommand fuel
      let others ← readStages fuel
      let all := if others.isEmpty then first else .pipeline (first :: others) false
      return if negated then .negation all else all
termination_by structural fuel => fuel

/-- The stages of a pipeline after the first one. -/
def readStages : Nat → Reading (List Command)
  | 0 => throw .tooDeep
  | fuel + 1 => do
      match ← readToken fuel with
      | .bar => do
          look .commandBelow
          let stage ← readCommand fuel
          return stage :: (← readStages fuel)
      | _ => do
          pushBack
          return []
termination_by structural fuel => fuel

def readCommand : Nat → Reading Command
  | 0 => throw .tooDeep
  | fuel + 1 => do
      let line := (← get).line
      let compound (body : Command) : Reading Command := do
        look .command
        return body.redirect line (← readRedirections fuel)
      let closing (token : Token) (body : Command) : Reading Command := do
        if (← readToken fuel).agrees token then compound body else unexpected (some token)
      match ← readToken fuel with
      | .keyword "if" => do closing (.keyword "fi") (← readConditional fuel)
      | .keyword "while" => do closing (.keyword "done") (← readLoop false fuel)
      | .keyword "until" => do closing (.keyword "done") (← readLoop true fuel)
      | .keyword "for" => do closing (.keyword "done") (← readEach line fuel)
      | .keyword "case" => do compound (← readChoice line fuel)
      | .openParen => do closing .closeParen (.subshell line (← readList .lines fuel) [])
      | .keyword "\x7b" => do closing (.keyword "\x7d") (← readList .lines fuel)
      | .word _ | .redirection _ _ => do
          pushBack
          readSimple line fuel
      | _ => unexpected none
termination_by structural fuel => fuel

/-- A list of commands after a keyword that must come next. -/
def readAfter (name : String) : Nat → Reading Command
  | 0 => throw .tooDeep
  | fuel + 1 => do
      if (← readToken fuel).isKeyword name then readList .lines fuel
      else unexpected (some (.keyword name))
termination_by structural fuel => fuel

/-- A condition with its branches, up to the last keyword. -/
def readConditional : Nat → Reading Command
  | 0 => throw .tooDeep
  | fuel + 1 => do
      let test ← readList .lines fuel
      let yes ← readAfter "then" fuel
      match ← readToken fuel with
      | .keyword "elif" => return .conditional test yes (← readConditional fuel)
      | .keyword "else" => return .conditional test yes (← readList .lines fuel)
      | _ => do
          pushBack
          return .conditional test yes .nothing
termination_by structural fuel => fuel

/-- A loop with a condition, up to the last keyword. -/
def readLoop (untilHolds : Bool) : Nat → Reading Command
  | 0 => throw .tooDeep
  | fuel + 1 => do
      let condition ← readList .lines fuel
      return .loop untilHolds condition (← readAfter "do" fuel)
termination_by structural fuel => fuel

/-- A loop over words, up to the last keyword. -/
def readEach (line : Nat) : Nat → Reading Command
  | 0 => throw .tooDeep
  | fuel + 1 => do
      let name ← match ← readPlainToken fuel with
        | (.word parts, false) => pure ((Word.literal? parts).getD [])
        | _ => pure []
      if !isName name then refuse "Syntax error: Bad for loop variable"
      look .commandBelow
      let words ← match ← readToken fuel with
        | .keyword "in" => readWords fuel
        | .semicolon => pure [[.parameter ['@'] .value true]]
        | _ => do
            pushBack
            pure [[.parameter ['@'] .value true]]
      look .commandBelow
      return .each line name words (← readAfter "do" fuel)
termination_by structural fuel => fuel

/-- Words up to the end of a line or a semicolon. -/
def readWords : Nat → Reading (List Word)
  | 0 => throw .tooDeep
  | fuel + 1 => do
      match ← readToken fuel with
      | .word parts => return parts :: (← readWords fuel)
      | .newline | .semicolon => return []
      | _ => unexpected none
termination_by structural fuel => fuel

/-- A choice between patterns, up to its last keyword, which is taken. -/
def readChoice (line : Nat) : Nat → Reading Command
  | 0 => throw .tooDeep
  | fuel + 1 => do
      match ← readToken fuel with
      | .word parts => do
          look .commandBelow
          if (← readToken fuel).isKeyword "in" then
            return .choice line parts (← readCases fuel)
          else unexpected (some (.keyword "in"))
      | _ => unexpected (some (.word []))
termination_by structural fuel => fuel

def readCases : Nat → Reading (List (List Word × Command))
  | 0 => throw .tooDeep
  | fuel + 1 => do
      look .keywordBelow
      match ← readToken fuel with
      | .keyword "esac" => return []
      | token => do
          match token with
          | .openParen => let _ ← readToken fuel
          | _ => pure ()
          let patterns ← readPatterns fuel
          let body ← readList .optional fuel
          look .keywordBelow
          match ← readToken fuel with
          | .keyword "esac" => return [(patterns, body)]
          | .doubleSemicolon => return (patterns, body) :: (← readCases fuel)
          | _ => unexpected (some .doubleSemicolon)
termination_by structural fuel => fuel

/-- Patterns with bars between them, the first of which has been read, up to the parenthesis. -/
def readPatterns : Nat → Reading (List Word)
  | 0 => throw .tooDeep
  | fuel + 1 => do
      let pattern := (← get).word
      match ← readToken fuel with
      | .bar => do
          let _ ← readToken fuel
          return pattern :: (← readPatterns fuel)
      | .closeParen => return [pattern]
      | _ => unexpected (some .closeParen)
termination_by structural fuel => fuel

/-- The redirections after a compound command. -/
def readRedirections : Nat → Reading (List Redirection)
  | 0 => throw .tooDeep
  | fuel + 1 => do
      match ← readToken fuel with
      | .redirection descriptor kind => do
          let redirection ← readTarget descriptor kind fuel
          return redirection :: (← readRedirections fuel)
      | _ => do
          pushBack
          return []
termination_by structural fuel => fuel

def readTarget (descriptor : Nat) (kind : Redirecting) : Nat → Reading Redirection
  | 0 => throw .tooDeep
  | fuel + 1 => do
      if let .text _ := kind then look .mark
      match ← readPlainToken fuel with
      | (.word parts, _) => do
          look .nothing
          match kind with
          | .file access => return .file descriptor access parts
          | .copy => return .copy descriptor parts
          | .text dropTabs => do
              let (mark, verbatim) := Word.unquoted parts
              return .text descriptor (← announce mark dropTabs verbatim)
      | _ => unexpected none
termination_by structural fuel => fuel

/-- A simple command, or the definition of a function. -/
def readSimple (line : Nat) : Nat → Reading Command
  | 0 => throw .tooDeep
  | fuel + 1 => readSimpleFrom line true [] [] [] fuel
termination_by structural fuel => fuel

/-- The rest of a simple command after the assignments, words and redirections given, each the last
one first; assignments may come as long as no word has. -/
def readSimpleFrom (line : Nat) (atStart : Bool) (assignments : List (Raw × Word))
    (words : List Word) (redirections : List Redirection) : Nat → Reading Command
  | 0 => throw .tooDeep
  | fuel + 1 => do
      look (if atStart then .replaced else .nothing)
      let finish : Reading Command := do
        pushBack
        return .simple line assignments.reverse words.reverse redirections.reverse
      match ← readToken fuel with
      | .word parts =>
          match (if atStart then assignment? parts else none) with
          | some assignment =>
              readSimpleFrom line atStart (assignment :: assignments) words redirections fuel
          | none => readSimpleFrom line false assignments (parts :: words) redirections fuel
      | .redirection descriptor kind => do
          let redirection ← readTarget descriptor kind fuel
          readSimpleFrom line atStart assignments words (redirection :: redirections) fuel
      | .openParen =>
          match words, assignments, redirections with
          | [word], [], [] => do
              if !(← readToken fuel).agrees .closeParen then unexpected (some .closeParen)
              let name := (Word.literal? word).getD []
              if !isName name || specialBuiltins.contains (String.ofList name) then
                refuse "Syntax error: Bad function name"
              look .commandBelow
              let start := (← get).line
              return .function name start (← readCommand fuel)
          | _, _, _ => finish
      | _ => finish
termination_by structural fuel => fuel

end

end EditorBridge.Shell
