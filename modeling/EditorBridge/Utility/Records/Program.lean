import EditorBridge.Regex.Basic

/-!
# Programs about records

A program says what is done for which records of the input.  A record has fields; what is done is
written down with expressions and statements.
-/
namespace EditorBridge.Utility.Records

/-- What is calculated from two numbers. -/
inductive Operator where
  | plus | minus | times | dividedBy | modulo | power
  deriving DecidableEq, Repr

/-- How two values are compared. -/
inductive Relation where
  | less | atMost | equal | unequal | greater | atLeast
  deriving DecidableEq, Repr

/-- Functions that need no definition. -/
inductive Primitive where
  | length | substr | index | split | sub | gsub | matching | sprintf
  | sine | cosine | arctangent | exponential | logarithm | root | whole | random | seed
  | lower | upper | system | close | flush
  deriving DecidableEq, Repr

mutual

inductive Expression where
  | number (value : Float)
  | text (raw : Raw)
  /-- Whether the record matches; where a regular expression is asked for it is that itself. -/
  | regex (regex : Regex)
  | named (name : Raw)
  | element (array : Raw) (indices : List Expression)
  | field (index : Expression)
  | assign (target : Expression) (operator : Option Operator) (value : Expression)
  /-- Add something to a variable, whose value before or after that is the value. -/
  | step (target : Expression) (amount : Float) (isBefore : Bool)
  | conditional (condition yes no : Expression)
  | both (first second : Expression)
  | either (first second : Expression)
  | not (operand : Expression)
  | opposite (operand : Expression)
  | positive (operand : Expression)
  | calculated (operator : Operator) (first second : Expression)
  | compared (relation : Relation) (first second : Expression)
  | matched (isNegated : Bool) (text pattern : Expression)
  | joined (first second : Expression)
  | isIn (indices : List Expression) (array : Raw)
  | call (name : Raw) (arguments : List Expression)
  | primitive (primitive : Primitive) (arguments : List Expression)
  | getline (source : Origin) (target : Option Expression)
  /-- Expressions between parentheses. -/
  | group (members : List Expression)

inductive Origin where
  | input
  | file (path : Expression)
  | command (command : Expression)

end

inductive Outlet where
  | file | addedTo | command
  deriving DecidableEq, Repr

inductive Statement where
  | nothing
  | evaluate (expression : Expression)
  | print (values : List Expression) (target : Option (Outlet × Expression))
  | printf (values : List Expression) (target : Option (Outlet × Expression))
  | choice (condition : Expression) (yes no : Statement)
  | loop (condition : Expression) (body : Statement)
  | loopAfter (body : Statement) (condition : Expression)
  | counted (start : Statement) (condition : Option Expression) (step body : Statement)
  | forIn (name array : Raw) (body : Statement)
  | sequence (statements : List Statement)
  | next
  | nextFile
  | exit (status : Option Expression)
  | giveBack (value : Option Expression)
  | leave
  | goOn
  | delete (array : Raw) (indices : List Expression)

inductive Condition where
  | start
  | finish
  | always
  | when (expression : Expression)
  /-- From a record to another one; ranges are numbered. -/
  | range (index : Nat) (first last : Expression)

structure Rule where
  condition : Condition
  body : Statement

structure Routine where
  parameters : List Raw
  body : Statement

structure Program where
  rules : List Rule
  routines : List (Raw × Routine)
  /-- How many ranges there are. -/
  ranges : Nat

def Expression.isTarget : Expression → Bool
  | named _ | element _ _ | field _ => true
  | _ => false

end EditorBridge.Utility.Records
