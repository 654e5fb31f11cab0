import EditorBridge.Text.Raw

/-!
# Arithmetic of the shell

Integers of 64 bits, names of variables, the usual operators with the usual precedence, and
assignments.  Branches that are not taken are read but not evaluated.
-/
namespace EditorBridge.Shell.Arithmetic

def wrap (n : Int) : Int := n.bmod UInt64.size

def greatest : Int := 9223372036854775807

def bits (n : Int) : Nat := (n.emod UInt64.size).toNat

/-- The value of a digit, in bases up to sixteen. -/
def digit? (c : Char) : Option Nat :=
  if c.isDigit then some (c.toNat - '0'.toNat)
  else if 'a' ≤ c ∧ c ≤ 'f' then some (c.toNat - 'a'.toNat + 10)
  else if 'A' ≤ c ∧ c ≤ 'F' then some (c.toNat - 'A'.toNat + 10)
  else none

def digitsOf (base : Nat) (text : Raw) : Raw :=
  text.takeWhile fun c => (digit? c).any (· < base)

def valueOf (base : Nat) (digits : Raw) : Nat :=
  digits.foldl (fun n c => n * base + (digit? c).getD 0) 0

/-- The base of the number at the start of a text, and how many characters tell it: a zero stands in
front of an octal number, and in front of the letter of a hexadecimal or a binary one. -/
def base (text : Raw) : Nat × Nat :=
  match text with
  | '0' :: x :: rest =>
      if (x = 'x' || x = 'X') && digitsOf 16 rest ≠ [] then (16, 2)
      else if (x = 'b' || x = 'B') && digitsOf 2 rest ≠ [] then (2, 2)
      else (8, 0)
  | '0' :: _ => (8, 0)
  | _ => (10, 0)

/-- The number at the start of a text and what comes after it. -/
def magnitude (text : Raw) : Nat × Raw :=
  let (base, skipped) := base text
  let text := text.drop skipped
  let digits := digitsOf base text
  (valueOf base digits, text.drop digits.length)

/-- The decimal number at the start of a text and what comes after it. -/
def decimalMagnitude (text : Raw) : Nat × Raw :=
  let digits := text.takeWhile Char.isDigit
  (valueOf 10 digits, text.drop digits.length)

/-- The number that a whole text stands for, within 64 bits; a sign may come before it and blanks
around it. -/
def signed? (magnitude : Raw → Nat × Raw) (text : Raw) : Option Int :=
  let isBlank (c : Char) : Bool := " \t\n\x0b\x0c\r".toList.contains c
  let text := text.dropWhile isBlank
  let (negative, digits) := match text with
    | '-' :: digits => (true, digits)
    | '+' :: digits => (false, digits)
    | digits => (false, digits)
  if !digits.head?.any Char.isDigit then none
  else
    let (n, rest) := magnitude digits
    let value : Int := if negative then -(n : Int) else n
    if rest.all isBlank && wrap value = value then some value else none

/-- The number that a text stands for in an expression. -/
def number? (text : Raw) : Option Int := signed? magnitude text

def decimal? (text : Raw) : Option Int := signed? decimalMagnitude text

def greatestCount : Int := 2147483647

/-- The number that a text stands for where something is counted. -/
def count? (text : Raw) : Option Nat :=
  (decimal? text).bind fun n => if 0 ≤ n ∧ n ≤ greatestCount then some n.toNat else none

inductive Operator where
  | times | dividedBy | modulo
  | plus | minus
  | left | right
  | less | atMost | greater | atLeast
  | equal | unequal
  | and | exclusive | or
  deriving DecidableEq, Repr

namespace Operator

def looseness : Operator → Nat
  | times | dividedBy | modulo => 0
  | plus | minus => 1
  | left | right => 2
  | less | atMost | greater | atLeast => 3
  | equal | unequal => 4
  | and => 5
  | exclusive => 6
  | or => 7

def loosest : Nat := 8

end Operator

inductive Token where
  | ended
  | bad
  | number (n : Int)
  | name (text : Raw)
  /-- An assignment, perhaps of the result of an operator. -/
  | assign (operator : Option Operator)
  | binary (operator : Operator)
  | andAnd
  | orOr
  | not
  | complement
  | openParen
  | closeParen
  | question
  | colon
  deriving DecidableEq, Repr

/-- Symbols, those first of which others are the start. -/
def symbols : List (String × Token) :=
  [("<<=", .assign (some .left)), (">>=", .assign (some .right)), ("||", .orOr), ("&&", .andAnd),
    ("==", .binary .equal), ("!=", .binary .unequal), ("<=", .binary .atMost),
    (">=", .binary .atLeast), ("<<", .binary .left), (">>", .binary .right),
    ("+=", .assign (some .plus)), ("-=", .assign (some .minus)), ("*=", .assign (some .times)),
    ("/=", .assign (some .dividedBy)), ("%=", .assign (some .modulo)), ("&=", .assign (some .and)),
    ("|=", .assign (some .or)), ("^=", .assign (some .exclusive)), ("+", .binary .plus),
    ("-", .binary .minus), ("*", .binary .times), ("/", .binary .dividedBy), ("%", .binary .modulo),
    ("&", .binary .and), ("|", .binary .or), ("^", .binary .exclusive), ("<", .binary .less),
    (">", .binary .greater), ("!", .not), ("~", .complement), ("(", .openParen),
    (")", .closeParen), ("?", .question), (":", .colon), ("=", .assign none)]

/-- The token at the start of a text, and what comes after it. -/
def token (text : Raw) : Token × Raw :=
  match text.dropWhile fun c => c = ' ' || c = '\t' || c = '\n' with
  | [] => (.ended, [])
  | c :: rest =>
      if c.isDigit then
        let (n, rest) := magnitude (c :: rest)
        (.number (min (n : Int) greatest), rest)
      else if c.isAlpha || c = '_' then
        let more := rest.takeWhile fun c => c.isAlphanum || c = '_'
        (.name (c :: more), rest.drop more.length)
      else match symbols.find? fun symbol => symbol.1.toList.isPrefixOf (c :: rest) with
        | some (symbol, token) => (token, (c :: rest).drop symbol.length)
        | none => (.bad, c :: rest)

inductive Fault where
  /-- The expression is wrong in some way. -/
  | wrong (message : String)
  /-- A variable has a value that is no number. -/
  | noNumber (text : Raw)
  /-- A variable must not be changed. -/
  | readOnly (name : Raw)
  /-- The machine cannot give the result. -/
  | overflow
  /-- The expression goes deeper than anything is evaluated. -/
  | tooDeep
  deriving DecidableEq, Repr

structure Variables where
  value? : Raw → Option Raw
  isReadOnly : Raw → Bool

/-- Where an evaluation is: what is left of the text, the last token, and the variables that have
been assigned, the last one first. -/
structure Progress where
  text : Raw
  last : Token
  assigned : List (Raw × Raw)

/-- Evaluation takes tokens from the front of a text and may assign variables. -/
abbrev Evaluation := ReaderT Variables (StateT Progress (Except Fault))

/-- A truth value as a number. -/
def ofBool (b : Bool) : Int := if b then 1 else 0

def next : Evaluation Token := do
  let (token, text) := token (← get).text
  modify fun progress => { progress with text, last := token }
  return token

def remember (token : Token) : Evaluation Unit :=
  modify fun progress => { progress with last := token }

def last : Evaluation Token := return (← get).last

/-- The value of a variable; one without a value counts as zero. -/
def look (name : Raw) : Evaluation Int := do
  let before := (← read).value? name
  match ((← get).assigned.lookup name).or before with
  | none | some [] => return 0
  | some text =>
      match number? text with
      | some n => return n
      | none => throw (.noNumber text)

def assign (name : Raw) (value : Int) : Evaluation Int := do
  if (← read).isReadOnly name then throw (.readOnly name)
  modify fun progress =>
    { progress with assigned := (name, Raw.ofInt value) :: progress.assigned }
  return value

def divide (operation : Int → Int → Int) (a b : Int) : Evaluation Int := do
  if b = 0 then throw (.wrong "division by zero")
  if wrap (a.tdiv b) ≠ a.tdiv b then throw .overflow
  return operation a b

def combine (operator : Operator) (a b : Int) : Evaluation Int :=
  match operator with
  | .times => return wrap (a * b)
  | .dividedBy => divide Int.tdiv a b
  | .modulo => divide Int.tmod a b
  | .plus => return wrap (a + b)
  | .minus => return wrap (a - b)
  | .left => return wrap (a * Nat.pow 2 (bits b % 64))
  | .right => return a.fdiv (Nat.pow 2 (bits b % 64))
  | .less => return ofBool (a < b)
  | .atMost => return ofBool (a ≤ b)
  | .greater => return ofBool (b < a)
  | .atLeast => return ofBool (b ≤ a)
  | .equal => return ofBool (a = b)
  | .unequal => return ofBool (a ≠ b)
  | .and => return wrap (bits a &&& bits b)
  | .exclusive => return wrap (bits a ^^^ bits b)
  | .or => return wrap (bits a ||| bits b)

mutual

def assignment (first : Token) (idle : Bool) : Nat → Evaluation Int
  | 0 => throw .tooDeep
  | fuel + 1 => do
      let second ← next
      match first, second with
      | .name name, .assign operator => do
          let result ← assignment (← next) idle fuel
          if idle then return result
          else match operator with
            | none => assign name result
            | some operator => assign name (← combine operator (← look name) result)
      | first, second => conditional first second idle fuel
termination_by structural fuel => fuel

/-- A condition with its two branches, or less. -/
def conditional (first second : Token) (idle : Bool) : Nat → Evaluation Int
  | 0 => throw .tooDeep
  | fuel + 1 => do
      let condition ← disjunction first second idle fuel
      if (← last) ≠ .question then return condition
      let yes ← assignment (← next) (idle || condition = 0) fuel
      if (← last) ≠ .colon then throw (.wrong "expecting ':'")
      let first ← next
      let second ← next
      let no ← conditional first second (idle || condition ≠ 0) fuel
      return if condition ≠ 0 then yes else no
termination_by structural fuel => fuel

/-- Parts of which one has to hold, or less. -/
def disjunction (first second : Token) (idle : Bool) : Nat → Evaluation Int
  | 0 => throw .tooDeep
  | fuel + 1 => do
      let a ← conjunction first second idle fuel
      if (← last) ≠ .orOr then return a
      let first ← next
      let second ← next
      let b ← disjunction first second (idle || a ≠ 0) fuel
      return ofBool (a ≠ 0 || b ≠ 0)
termination_by structural fuel => fuel

/-- Parts of which all have to hold, or less. -/
def conjunction (first second : Token) (idle : Bool) : Nat → Evaluation Int
  | 0 => throw .tooDeep
  | fuel + 1 => do
      let a ← operation first second idle fuel
      if (← last) ≠ .andAnd then return a
      let first ← next
      let second ← next
      let b ← conjunction first second (idle || a = 0) fuel
      return ofBool (a ≠ 0 && b ≠ 0)
termination_by structural fuel => fuel

def operation (first second : Token) (idle : Bool) : Nat → Evaluation Int
  | 0 => throw .tooDeep
  | fuel + 1 => do
      let a ← operand first second idle fuel
      match ← last with
      | .binary operator => operationFrom a operator Operator.loosest idle fuel
      | _ => return a
termination_by structural fuel => fuel

/-- What follows a first operand and an operator, as far as it binds more tightly than given. -/
def operationFrom (a : Int) (operator : Operator) (bound : Nat) (idle : Bool) :
    Nat → Evaluation Int
  | 0 => throw .tooDeep
  | fuel + 1 => do
      let first ← next
      let second ← next
      let b ← operand first second idle fuel
      let b ← match ← last with
        | .binary other =>
            if other.looseness < operator.looseness then
              operationFrom b other operator.looseness idle fuel
            else pure b
        | _ => pure b
      let a ← if idle then pure b else combine operator a b
      match ← last with
      | .binary other =>
          if other.looseness < bound then operationFrom a other bound idle fuel else return a
      | _ => return a
termination_by structural fuel => fuel

def operand (first second : Token) (idle : Bool) : Nat → Evaluation Int
  | 0 => throw .tooDeep
  | fuel + 1 =>
      match first with
      | .openParen => do
          let result ← assignment second idle fuel
          if (← last) ≠ .closeParen then throw (.wrong "expecting ')'")
          let _ ← next
          return result
      | .number n => do
          remember second
          return n
      | .name name => do
          remember second
          if idle then return 0 else look name
      | .binary .plus => do operand second (← next) idle fuel
      | .binary .minus => return wrap (-(← operand second (← next) idle fuel))
      | .not => return ofBool ((← operand second (← next) idle fuel) = 0)
      | .complement => return -(← operand second (← next) idle fuel) - 1
      | _ => throw (.wrong "expecting primary")
termination_by structural fuel => fuel

end

/-- The value of an expression, and the variables that it assigns, the first one first. -/
def evaluate (known : Variables) (text : Raw) : Except Fault (Int × List (Raw × Raw)) := do
  let whole : Evaluation Int := do
    let value ← assignment (← next) false (8 * text.length + 32)
    if (← last) ≠ .ended then throw (.wrong "expecting EOF")
    return value
  let (value, progress) ← (whole.run known).run ⟨text, .ended, []⟩
  return (value, progress.assigned.reverse)

end EditorBridge.Shell.Arithmetic
