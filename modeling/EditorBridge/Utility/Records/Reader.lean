import EditorBridge.Utility.Records.Token

/-!
# Reading programs about records

Operators bind as usual: assignments least, then conditions, the logical operators, membership,
matches, comparisons, joining, sums, products, signs and powers.  Inside of what is printed a
greater sign leads to a file.
-/
namespace EditorBridge.Utility.Records

structure Progress where
  tokens : List (Token × Nat)
  /-- How many parentheses and braces have been opened and not closed. -/
  parentheses : Nat
  braces : Nat
  /-- Whether a function is defined here. -/
  inRoutine : Bool
  /-- How many loops there are around. -/
  loops : Nat
  ranges : Nat
  /-- Whether this is done before the first or after the last record. -/
  isOutside : Bool
  /-- The functions that have been called, with the number of arguments and the line. -/
  calls : List (Raw × Nat × Nat)

abbrev Reading := StateT Progress (Except Fault)

namespace Reading

def peek : Reading Token := do
  return (((← get).tokens.head?).map (·.1)).getD .finish

def peekSecond : Reading Token := do
  return (((← get).tokens[1]?).map (·.1)).getD .finish

def line : Reading Nat := do return (((← get).tokens.head?).map (·.2)).getD 1

def refuse {α : Type} (message : Raw) : Reading α := do
  throw (.at (← line) message)

def unexpected {α : Type} : Reading α := do
  let token ← peek
  let progress ← get
  match token with
  | .finish =>
      if 0 < progress.braces then refuse "missing \x7d near end of file".toList
      else refuse "syntax error at or near end of file".toList
  | .sign "\x7d" =>
      if progress.braces = 0 then throw (.brace (← line))
      else if 0 < progress.parentheses then refuse ("missing ) near ".toList ++ token.shown)
      else refuse ("syntax error at or near ".toList ++ token.shown)
  | _ =>
      if 0 < progress.parentheses then refuse ("missing ) near ".toList ++ token.shown)
      else refuse ("syntax error at or near ".toList ++ token.shown)

/-- Go on behind the next token. -/
def advance : Reading Unit :=
  modify fun progress =>
    let rest := progress.tokens.drop 1
    match progress.tokens.head? with
    | some (.sign "(", _) =>
        { progress with tokens := rest, parentheses := progress.parentheses + 1 }
    | some (.sign ")", _) =>
        { progress with tokens := rest, parentheses := progress.parentheses - 1 }
    | some (.sign "\x7b", _) => { progress with tokens := rest, braces := progress.braces + 1 }
    | some (.sign "\x7d", _) => { progress with tokens := rest, braces := progress.braces - 1 }
    | _ => { progress with tokens := rest }

def isAt (sign : String) : Reading Bool := do
  match ← peek with
  | .sign word => return word = sign
  | _ => return false

def isAtKeyword (keyword : String) : Reading Bool := do
  match ← peek with
  | .keyword word => return word = keyword
  | _ => return false

/-- Go on behind a sign, if it is there. -/
def skip (sign : String) : Reading Bool := do
  let found ← isAt sign
  if found then advance
  return found

/-- Go on behind a sign, which must be there. -/
def expect (sign : String) : Reading Unit := do
  if !(← skip sign) then unexpected

/-- Go on behind ends of lines, and behind semicolons if that is wanted. -/
def skipLines (semicolons : Bool) : Nat → Reading Unit
  | 0 => return ()
  | fuel + 1 => do
      match ← peek with
      | .newline => do
          advance
          skipLines semicolons fuel
      | .sign ";" =>
          if semicolons then do
            advance
            skipLines semicolons fuel
      | _ => return ()

/-- Go on behind all ends of lines. -/
def passLines (semicolons : Bool) : Reading Unit := do
  skipLines semicolons (← get).tokens.length

/-- The next token, which must be a name. -/
def takeName : Reading Raw := do
  match ← peek with
  | .name raw => do
      advance
      return raw
  | _ => unexpected

end Reading

open Reading

def sumOperators : List (String × Operator) := [("+", .plus), ("-", .minus)]

def productOperators : List (String × Operator) :=
  [("*", .times), ("/", .dividedBy), ("%", .modulo)]

/-- Signs that assign, with what they calculate before. -/
def assignments : List (String × Option Operator) :=
  [("=", none), ("+=", some .plus), ("-=", some .minus), ("*=", some .times),
    ("/=", some .dividedBy), ("%=", some .modulo), ("^=", some .power)]

def relations : List (String × Relation) :=
  [("<", .less), ("<=", .atMost), ("==", .equal), ("!=", .unequal), (">", .greater),
    (">=", .atLeast)]

/-- Whether something that is joined may start with a token. -/
def startsOperand : Token → Bool
  | .number _ | .text _ | .pattern _ | .name _ | .caller _ | .primitive _ _ => true
  | .sign word => ["$", "!", "(", "++", "--"].contains word
  | _ => false

def meaning? {α : Type} (table : List (String × α)) (token : Token) : Option α :=
  match token with
  | .sign word => table.lookup word
  | _ => none

def readRegex (text : Raw) : Reading Regex := do
  match regexOf text with
  | .ok regex => return regex
  | .error message => refuse message

/-- An expression where a regular expression is asked for: a text is one. -/
def asPattern (expression : Expression) : Reading Expression := do
  match expression with
  | .text raw => return .regex (← readRegex raw)
  | expression => return expression

/-- Arguments of a function, of which one may be a regular expression. -/
def asArguments (primitive : Primitive) (arguments : List Expression) :
    Reading (List Expression) := do
  match primitive, arguments with
  | .sub, pattern :: rest | .gsub, pattern :: rest => return (← asPattern pattern) :: rest
  | .matching, text :: pattern :: rest => return text :: (← asPattern pattern) :: rest
  | _, arguments => return arguments

/-- How strongly things have to bind that are read: the number of a level.  The last level is that
of signs. -/
def lastLevel : Nat := 8

mutual

/-- An expression, in which a greater sign may lead to a file. -/
def expression (leads : Bool) : Nat → Reading Expression
  | 0 => unexpected
  | fuel + 1 => do
      let condition ← binary leads 0 fuel
      if ← skip "?" then
        passLines false
        let yes ← expression leads fuel
        passLines false
        expect ":"
        passLines false
        return .conditional condition yes (← expression leads fuel)
      else return condition
termination_by structural fuel => fuel

/-- Operators of a level and of those that bind more strongly. -/
def binary (leads : Bool) (level : Nat) : Nat → Reading Expression
  | 0 => unexpected
  | fuel + 1 =>
      if lastLevel ≤ level then signed fuel
      else do
        let first ← binary leads (level + 1) fuel
        further leads level first fuel
termination_by structural fuel => fuel

/-- What comes after a first operand. -/
def further (leads : Bool) (level : Nat) (first : Expression) : Nat → Reading Expression
  | 0 => unexpected
  | fuel + 1 => do
      let token ← peek
      let second (level : Nat) : Reading Expression := do
        advance
        if level ≤ 2 then passLines false
        binary leads level fuel
      match level with
      | 0 =>
          if ← isAt "||" then further leads level (.either first (← second 1)) fuel
          else return first
      | 1 =>
          if ← isAt "&&" then further leads level (.both first (← second 2)) fuel
          else return first
      | 2 =>
          if ← isAtKeyword "in" then do
            advance
            further leads level (.isIn [first] (← takeName)) fuel
          else return first
      | 3 =>
          if ← isAt "~" then
            let pattern ← asPattern (← second 4)
            further leads level (.matched false first pattern) fuel
          else if ← isAt "!~" then
            let pattern ← asPattern (← second 4)
            further leads level (.matched true first pattern) fuel
          else return first
      | 4 =>
          match meaning? relations token with
          | some relation =>
              if leads && relation = .greater then return first
              else do further leads level (.compared relation first (← second 5)) fuel
          | none => return first
      | 5 =>
          if startsOperand token then
            further leads level (.joined first (← binary leads 6 fuel)) fuel
          else return first
      | 6 =>
          match meaning? sumOperators token with
          | some operator => further leads level (.calculated operator first (← second 7)) fuel
          | none => return first
      | _ =>
          match meaning? productOperators token with
          | some operator => further leads level (.calculated operator first (← second 8)) fuel
          | none => return first
termination_by structural fuel => fuel

def signed : Nat → Reading Expression
  | 0 => unexpected
  | fuel + 1 => do
      match ← peek with
      | .sign "!" => do
          advance
          return .not (← signed fuel)
      | .sign "-" => do
          advance
          return .opposite (← signed fuel)
      | .sign "+" => do
          advance
          return .positive (← signed fuel)
      | _ => do
          let base ← stepped true fuel
          let base ← piped base fuel
          if ← skip "^" then return .calculated .power base (← signed fuel)
          else return base
termination_by structural fuel => fuel

/-- What comes of a command from which records are taken. -/
def piped (first : Expression) : Nat → Reading Expression
  | 0 => unexpected
  | fuel + 1 => do
      match ← peek, ← peekSecond with
      | .sign "|", .keyword "getline" => do
          advance
          advance
          let target ← target? fuel
          piped (.getline (.command first) target) fuel
      | _, _ => return first
termination_by structural fuel => fuel

/-- What a record is to be assigned to, if that is said. -/
def target? : Nat → Reading (Option Expression)
  | 0 => unexpected
  | fuel + 1 => do
      match ← peek with
      | .name _ | .sign "$" => return some (← stepped false fuel)
      | _ => return none
termination_by structural fuel => fuel

def stepped (assigns : Bool) : Nat → Reading Expression
  | 0 => unexpected
  | fuel + 1 => do
      match ← peek with
      | .sign "++" | .sign "--" => do
          let amount : Float := if ← isAt "++" then 1 else -1
          advance
          let target ← stepped false fuel
          if target.isTarget then return .step target amount true else unexpected
      | _ => do
          let operand ← operand fuel
          if !operand.isTarget || !assigns then return operand
          match ← peek with
          | .sign "++" => do
              advance
              return .step operand 1 false
          | .sign "--" => do
              advance
              return .step operand (-1) false
          | token =>
              match meaning? assignments token with
              | some operator => do
                  advance
                  passLines false
                  return .assign operand operator (← expression false fuel)
              | none => return operand
termination_by structural fuel => fuel

def operand : Nat → Reading Expression
  | 0 => unexpected
  | fuel + 1 => do
      match ← peek with
      | .number value => do
          advance
          return .number value
      | .text raw => do
          advance
          return .text raw
      | .pattern raw => do
          let regex ← readRegex raw
          advance
          return .regex regex
      | .name raw => do
          advance
          if ← skip "[" then
            let indices ← expressions false fuel
            expect "]"
            return .element raw indices
          else return .named raw
      | .caller raw => do
          let line ← line
          advance
          expect "("
          let arguments ← if ← isAt ")" then pure [] else expressions false fuel
          expect ")"
          modify fun progress =>
            { progress with calls := (raw, arguments.length, line) :: progress.calls }
          return .call raw arguments
      | .primitive primitive name => do
          advance
          if ← isAt "(" then
            advance
            let arguments ← if ← isAt ")" then pure [] else expressions false fuel
            let (least, most) := ((Token.primitives.lookup name).map (·.2)).getD (0, 0)
            if arguments.length < least ∨ most < arguments.length then
              refuse ("wrong number of arguments in call to " ++ name).toList
            expect ")"
            return .primitive primitive (← asArguments primitive arguments)
          else if primitive = .length then return .primitive primitive []
          else unexpected
      | .sign "$" => do
          advance
          match ← peek with
          | .sign "-" => do
              advance
              return .field (.opposite (← stepped false fuel))
          | _ => return .field (← stepped false fuel)
      | .sign "(" => do
          advance
          let members ← expressions false fuel
          expect ")"
          if 1 < members.length && (← isAtKeyword "in") then
            advance
            return .isIn members (← takeName)
          else return .group members
      | .keyword "getline" => do
          advance
          let target ← target? fuel
          if ← skip "<" then
            return .getline (.file (← stepped false fuel)) target
          else return .getline .input target
      | _ => unexpected
termination_by structural fuel => fuel

def expressions (leads : Bool) : Nat → Reading (List Expression)
  | 0 => unexpected
  | fuel + 1 => do
      let first ← expression leads fuel
      if ← skip "," then
        passLines false
        return first :: (← expressions leads fuel)
      else return [first]
termination_by structural fuel => fuel

end

def depth : Reading Nat := do return 24 * ((← get).tokens.length + 2)

def readExpression : Reading Expression := do expression false (← depth)

def readCondition : Reading Expression := do
  expect "("
  let condition ← readExpression
  expect ")"
  return condition

def endsStatement : Token → Bool
  | .newline | .finish | .sign ";" | .sign "\x7d" => true
  | _ => false

def endStatement : Reading Unit := do
  match ← peek with
  | .newline | .sign ";" => advance
  | .sign "\x7d" => return ()
  | _ => unexpected

/-- What something is printed to, if that is said. -/
def readOutlet : Reading (Option (Outlet × Expression)) := do
  match ← peek with
  | .sign ">" => do
      advance
      return some (.file, ← expression true (← depth))
  | .sign ">>" => do
      advance
      return some (.addedTo, ← expression true (← depth))
  | .sign "|" => do
      advance
      return some (.command, ← expression true (← depth))
  | _ => return none

def readPrinted : Reading (List Expression × Option (Outlet × Expression)) := do
  let isEmpty ← match ← peek with
    | .sign ">" | .sign ">>" | .sign "|" => pure true
    | token => pure (endsStatement token)
  let values ← if isEmpty then pure [] else expressions true (← depth)
  let values := match values with
    | [.group members] => members
    | values => values
  return (values, ← readOutlet)

def simpleStatement : Reading Statement := do
  match ← peek with
  | .keyword "print" => do
      advance
      let (values, outlet) ← readPrinted
      return .print values outlet
  | .keyword "printf" => do
      advance
      let (values, outlet) ← readPrinted
      if values.isEmpty then unexpected
      return .printf values outlet
  | .keyword "delete" => do
      advance
      let array ← takeName
      if ← skip "[" then
        let indices ← expressions false (← depth)
        expect "]"
        return .delete array indices
      else return .delete array []
  | .keyword "next" => do
      if (← get).isOutside then refuse "improper use of next".toList
      advance
      return .next
  | .keyword "nextfile" => do
      if (← get).isOutside then refuse "improper use of nextfile".toList
      advance
      return .nextFile
  | .keyword "exit" => do
      advance
      return .exit (← if endsStatement (← peek) then pure none else some <$> readExpression)
  | .keyword "return" => do
      if !(← get).inRoutine then refuse "return outside function body".toList
      advance
      return .giveBack (← if endsStatement (← peek) then pure none else some <$> readExpression)
  | .keyword "break" => do
      if (← get).loops = 0 then refuse "break statement outside of loop".toList
      advance
      return .leave
  | .keyword "continue" => do
      if (← get).loops = 0 then refuse "continue statement outside of loop".toList
      advance
      return .goOn
  | _ => return .evaluate (← readExpression)

def inLoop {α : Type} (body : Reading α) : Reading α := do
  modify fun progress => { progress with loops := progress.loops + 1 }
  let result ← body
  modify fun progress => { progress with loops := progress.loops - 1 }
  return result

/-- The names in the head of a loop that goes through a table, if it is one. -/
def keysHead? : Reading (Option (Raw × Raw)) := do
  match (← get).tokens.take 4 with
  | [(.name name, _), (.keyword "in", _), (.name array, _), (.sign ")", _)] => do
      advance
      advance
      advance
      advance
      return some (name, array)
  | _ => return none

mutual

def statement : Nat → Reading Statement
  | 0 => unexpected
  | fuel + 1 => do
      match ← peek with
      | .sign "\x7b" => do
          let body ← block fuel
          let _ ← skip ";"
          return body
      | .sign ";" => do
          advance
          return .nothing
      | .keyword "if" => do
          advance
          let condition ← readCondition
          passLines false
          let yes ← statement fuel
          let before ← get
          passLines true
          if ← isAtKeyword "else" then
            advance
            passLines false
            return .choice condition yes (← statement fuel)
          else
            set before
            return .choice condition yes .nothing
      | .keyword "while" => do
          advance
          let condition ← readCondition
          if ← skip ";" then return .loop condition .nothing
          passLines false
          return .loop condition (← inLoop (statement fuel))
      | .keyword "do" => do
          advance
          passLines false
          let body ← inLoop (statement fuel)
          passLines true
          if !(← isAtKeyword "while") then unexpected
          advance
          let condition ← readCondition
          endStatement
          return .loopAfter body condition
      | .keyword "for" => do
          advance
          expect "("
          match ← keysHead? with
          | some (name, array) => do
              passLines false
              return .forIn name array (← inLoop (statement fuel))
          | none => do
              let start ← if ← isAt ";" then pure Statement.nothing else simpleStatement
              expect ";"
              passLines false
              let condition ← if ← isAt ";" then pure none else some <$> readExpression
              expect ";"
              passLines false
              let step ← if ← isAt ")" then pure Statement.nothing else simpleStatement
              expect ")"
              if ← skip ";" then return .counted start condition step .nothing
              passLines false
              return .counted start condition step (← inLoop (statement fuel))
      | _ => do
          let simple ← simpleStatement
          endStatement
          return simple
termination_by structural fuel => fuel

def block : Nat → Reading Statement
  | 0 => unexpected
  | fuel + 1 => do
      expect "\x7b"
      let statements ← statements fuel
      expect "\x7d"
      return .sequence statements
termination_by structural fuel => fuel

def statements : Nat → Reading (List Statement)
  | 0 => unexpected
  | fuel + 1 => do
      passLines true
      match ← peek with
      | .sign "\x7d" => return []
      | .finish => unexpected
      | _ => do
          let first ← statement fuel
          return first :: (← statements fuel)
termination_by structural fuel => fuel

end

def readBlock : Reading Statement := do block (← depth)

/-- The names between the parentheses of a definition. -/
def parameters : Nat → Reading (List Raw)
  | 0 => unexpected
  | fuel + 1 => do
      let name ← takeName
      if ← skip "," then
        passLines false
        return name :: (← parameters fuel)
      else return [name]

def readRoutine : Reading (Raw × Routine) := do
  advance
  let name ← match ← peek with
    | .name raw | .caller raw => do
        advance
        pure raw
    | _ => unexpected
  expect "("
  let names ← if ← isAt ")" then pure [] else parameters (← depth)
  expect ")"
  passLines false
  modify fun progress => { progress with inRoutine := true, isOutside := false }
  let body ← readBlock
  modify fun progress => { progress with inRoutine := false }
  return (name, ⟨names, body⟩)

/-- The block of a rule, which may be missing: then the record is printed. -/
def readBody : Reading Statement := do
  if ← isAt "\x7b" then readBlock else return .print [] none

def readRule : Reading Rule := do
  match ← peek with
  | .keyword "BEGIN" => do
      advance
      modify fun progress => { progress with isOutside := true }
      return ⟨.start, ← readBlock⟩
  | .keyword "END" => do
      advance
      modify fun progress => { progress with isOutside := true }
      return ⟨.finish, ← readBlock⟩
  | .sign "\x7b" => do
      modify fun progress => { progress with isOutside := false }
      return ⟨.always, ← readBlock⟩
  | _ => do
      modify fun progress => { progress with isOutside := false }
      let first ← readExpression
      if ← skip "," then
        passLines false
        let last ← readExpression
        let index := (← get).ranges
        modify fun progress => { progress with ranges := index + 1 }
        return ⟨.range index first last, ← readBody⟩
      else return ⟨.when first, ← readBody⟩

/-- Rules and definitions up to the end. -/
def readItems : Nat → Program → Reading Program
  | 0, _ => unexpected
  | fuel + 1, program => do
      passLines false
      match ← peek with
      | .finish => return { program with ranges := (← get).ranges }
      | .keyword "function" => do
          let routine ← readRoutine
          let _ ← skip ";"
          readItems fuel { program with routines := program.routines ++ [routine] }
      | _ => do
          let rule ← readRule
          let _ ← skip ";"
          readItems fuel { program with rules := program.rules ++ [rule] }

def readProgram (text : Raw) : Except Fault Program := do
  let tokens ← tokensOf text
  let (program, progress) ←
    (readItems (tokens.length + 1) ⟨[], [], 0⟩).run ⟨tokens, 0, 0, false, 0, 0, false, []⟩
  let last := (tokens.getLast?.map (·.2)).getD 1
  for (name, count, line) in progress.calls.reverse do
    match program.routines.lookup name with
    | none => throw (.at last ("function ".toList ++ name ++ " never defined".toList))
    | some routine =>
        if routine.parameters.length < count then
          throw (.at line ("too many arguments in call to ".toList ++ name))
  return program

end EditorBridge.Utility.Records
