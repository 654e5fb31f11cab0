import EditorBridge.Regex.Reader
import EditorBridge.Utility.Basic

/-!
# Calculating with arguments

Arguments are the operands and operators of an expression.  Every value is a text; texts that look
like integers are calculated with.
-/
namespace EditorBridge.Utility.Calculating

open Host Act
open EditorBridge.Regex (Dialect Place)

/-- Why an expression has no value. -/
inductive Fault where
  | missingAfter (argument : Raw)
  | unexpected (argument : Raw)
  | unexpectedClosing
  | closingMissing (argument : Raw)
  | closingInsteadOf (argument : Raw)
  | notInteger
  | divisionByZero
  | regex (fault : EditorBridge.Regex.Fault)

def Fault.message : Fault → Raw
  | missingAfter argument =>
      "syntax error: missing argument after ".toList ++ Quoting.shown argument
  | unexpected argument => "syntax error: unexpected argument ".toList ++ Quoting.shown argument
  | unexpectedClosing => "syntax error: unexpected ')'".toList
  | closingMissing argument =>
      "syntax error: expecting ')' after ".toList ++ Quoting.shown argument
  | closingInsteadOf argument =>
      "syntax error: expecting ')' instead of ".toList ++ Quoting.shown argument
  | notInteger => "non-integer argument".toList
  | divisionByZero => "division by zero".toList
  | regex fault => fault.message.toList

/-- The arguments that have not been read, and the one before them. -/
structure Progress where
  previous : Raw
  rest : List Raw

abbrev Reading := StateT Progress (Except Fault)

/-- The next argument, which must be there. -/
def take : Reading Raw := do
  match (← get).rest with
  | [] => throw (.missingAfter (← get).previous)
  | argument :: rest => do
      set (⟨argument, rest⟩ : Progress)
      return argument

/-- The next argument if it is one of some. -/
def takeOneOf (operators : List String) : Reading (Option String) := do
  match (← get).rest with
  | [] => return none
  | argument :: rest =>
      match operators.find? fun operator => operator.toList = argument with
      | some operator => do
          set (⟨argument, rest⟩ : Progress)
          return some operator
      | none => return none

def integer? (text : Raw) : Option Int := if text.head? = some '+' then none else Raw.int? text

/-- The integer that a text looks like, which it must. -/
def integer (text : Raw) : Except Fault Int :=
  match integer? text with
  | some n => .ok n
  | none => .error .notInteger

/-- Whether a text counts as nothing: it is empty or zero. -/
def isNothing (text : Raw) : Bool :=
  let digits := if text.head? = some '-' then text.drop 1 else text
  text.isEmpty || (!digits.isEmpty && digits.all (· = '0'))

/-- The text of a truth value. -/
def ofBool (holds : Bool) : Raw := if holds then ['1'] else ['0']

/-- Whether a text comes before another one. -/
def precedes (a b : Raw) : Bool := FileTree.bytesLe (Raw.toBytes a) (Raw.toBytes b) && a ≠ b

def compare (operator : String) (a b : Raw) : Bool :=
  let (less, equal) := match integer? a, integer? b with
    | some a, some b => (decide (a < b), decide (a = b))
    | _, _ => (precedes a b, decide (a = b))
  match operator with
  | "<" => less
  | "<=" => less || equal
  | "=" | "==" => equal
  | "!=" => !equal
  | ">=" => !less
  | _ => !less && !equal

def calculate (operator : String) (a b : Raw) : Except Fault Raw := do
  let a ← integer a
  let b ← integer b
  match operator with
  | "+" => return Raw.ofInt (a + b)
  | "-" => return Raw.ofInt (a - b)
  | "*" => return Raw.ofInt (a * b)
  | operator =>
      if b = 0 then throw .divisionByZero
      return Raw.ofInt (if operator = "/" then a.tdiv b else a.tmod b)

/-- What a regular expression finds at the start of a text: its group, or how long it is. -/
def found (text pattern : Raw) : Except Fault Raw :=
  match EditorBridge.Regex.read ⟨false, false, false⟩ false pattern with
  | .error fault => .error (.regex fault)
  | .ok (regex, _) =>
      match regex.matchAt? (fun _ _ => true) (.start text) with
      | none => .ok (if regex.groups = 0 then ['0'] else [])
      | some found =>
          .ok (if regex.groups = 0 then Raw.ofNat found.text.length else found.group 1)

def part (text place length : Raw) : Raw :=
  match integer? place, integer? length with
  | some place, some length =>
      if place ≤ 0 || length ≤ 0 then [] else (text.drop (place.toNat - 1)).take length.toNat
  | _, _ => []

/-- The operators by how tightly they bind, the loosest ones first. -/
def operators : List (List String) :=
  [["|"], ["&"], ["<=", "<", "==", "=", "!=", ">=", ">"], ["+", "-"], ["*", "/", "%"], [":"]]

def operate (operator : String) (a b : Raw) : Except Fault Raw :=
  match operator with
  | "|" => .ok (if !isNothing a then a else if isNothing b then ['0'] else b)
  | "&" => .ok (if isNothing a || isNothing b then ['0'] else a)
  | ":" => found a b
  | "+" | "-" | "*" | "/" | "%" => calculate operator a b
  | operator => .ok (ofBool (compare operator a b))

def needsSecond (operator : String) (first : Raw) : Bool :=
  match operator with
  | "|" => isNothing first
  | "&" => !isNothing first
  | _ => true

mutual

/-- An expression with operators that bind as tightly as known, or more tightly. -/
def expression (evaluates : Bool) (level : Nat) : Nat → Reading Raw
  | 0 => throw .notInteger
  | fuel + 1 => do
      match operators[level]? with
      | none => operand evaluates fuel
      | some known => do
          let first ← expression evaluates (level + 1) fuel
          operations evaluates level known first fuel
termination_by structural fuel => fuel

def operations (evaluates : Bool) (level : Nat) (known : List String) (first : Raw) :
    Nat → Reading Raw
  | 0 => throw .notInteger
  | fuel + 1 => do
      match ← takeOneOf known with
      | none => return first
      | some operator => do
          let second ←
            expression (evaluates && needsSecond operator first) (level + 1) fuel
          let value ← if evaluates then (operate operator first second : Except Fault Raw)
            else pure first
          operations evaluates level known value fuel
termination_by structural fuel => fuel

/-- An operand, which may be that of a function. -/
def operand (evaluates : Bool) : Nat → Reading Raw
  | 0 => throw .notInteger
  | fuel + 1 => do
      match ← takeOneOf ["+", "length", "match", "index", "substr", "(", ")"] with
      | none => take
      | some "+" => take
      | some "length" => return Raw.ofNat (← operand evaluates fuel).length
      | some "match" => do
          let text ← operand evaluates fuel
          let pattern ← operand evaluates fuel
          if evaluates then (found text pattern : Except Fault Raw) else return text
      | some "index" => do
          let text ← operand evaluates fuel
          let characters ← operand evaluates fuel
          let place := text.findIdx characters.contains
          return Raw.ofNat (if place < text.length then place + 1 else 0)
      | some "substr" => do
          let text ← operand evaluates fuel
          let place ← operand evaluates fuel
          let length ← operand evaluates fuel
          return part text place length
      | some ")" => throw .unexpectedClosing
      | some _ => do
          let value ← expression evaluates 0 fuel
          match ← takeOneOf [")"] with
          | some _ => return value
          | none =>
              match (← get).rest with
              | [] => throw (.closingMissing (← get).previous)
              | argument :: _ => throw (.closingInsteadOf argument)
termination_by structural fuel => fuel

end

def value (arguments : List Raw) : Except Fault Raw := do
  let (value, progress) ←
    (expression true 0 (16 * arguments.length + 16)).run ⟨[], arguments⟩
  match progress.rest with
  | [] => return value
  | argument :: _ => throw (.unexpected argument)

/-- Write the value of arguments; the status says whether it is something. -/
def expr : Utility := fun arguments => do
  let arguments := if arguments.head? = some "--".toList then arguments.drop 1 else arguments
  if arguments = ["--help".toList] || arguments = ["--version".toList] then return 0
  if arguments.isEmpty then missingOperand []
  match value arguments with
  | .error fault => giveUp fault.message
  | .ok value => do
      putLine value
      return if isNothing value then 1 else 0

end EditorBridge.Utility.Calculating
