import EditorBridge.Files.Tree
import EditorBridge.Shell.Arithmetic

/-!
# Conditions

The language of `test`: conditions on texts, numbers and files, with negation, conjunction,
disjunction and parentheses.  How an argument counts depends on the arguments behind it, and with
three or four arguments on their number.
-/
namespace EditorBridge.Shell.Condition

inductive Unary where
  | isEmpty
  | isText
  | isTerminal
  /-- A condition on what a path leads to. -/
  | file (letter : Char)
  deriving DecidableEq, Repr

inductive Binary where
  | same | different | before | after
  | equal | unequal | atLeast | greater | atMost | less
  | newer | older | sameFile
  deriving DecidableEq, Repr

inductive Word where
  | unary (operator : Unary)
  | binary (operator : Binary)
  | not
  | and
  | or
  | openParen
  | closeParen
  deriving DecidableEq, Repr

def words : List (String × Word) :=
  ["r", "w", "x", "e", "f", "d", "c", "b", "p", "u", "g", "k", "s", "h", "L", "O", "G", "S"].map
    (fun letter => ("-" ++ letter, .unary (.file (letter.toList.headD 'e')))) ++
  [("-t", .unary .isTerminal), ("-z", .unary .isEmpty), ("-n", .unary .isText),
    ("=", .binary .same), ("!=", .binary .different), ("<", .binary .before),
    (">", .binary .after), ("-eq", .binary .equal), ("-ne", .binary .unequal),
    ("-ge", .binary .atLeast), ("-gt", .binary .greater), ("-le", .binary .atMost),
    ("-lt", .binary .less), ("-nt", .binary .newer), ("-ot", .binary .older),
    ("-ef", .binary .sameFile), ("!", .not), ("-a", .and), ("-o", .or), ("(", .openParen),
    (")", .closeParen)]

def word? (argument : Raw) : Option Word := words.lookup (String.ofList argument)

/-- Whether an argument may be an operator between two operands. -/
def binary? (argument : Raw) : Option Binary :=
  match word? argument with
  | some (.binary operator) => some operator
  | _ => none

inductive Fault where
  | unexpectedOperator (text : Raw)
  | missingArgument (text : Raw)
  | unclosed
  | noNumber (text : Raw)
  deriving DecidableEq, Repr

def Fault.message : Fault → Raw
  | unexpectedOperator [] => "unexpected operator".toList
  | unexpectedOperator text => text ++ ": unexpected operator".toList
  | missingArgument text => text ++ ": argument expected".toList
  | unclosed => "closing paren expected".toList
  | noNumber text => "Illegal number: ".toList ++ text

/-- The files that conditions are about, and where paths start. -/
structure Place where
  files : FileTree
  directory : Location

/-- The word that the first of some arguments is.  An operator with one operand is none where there
is no operand, or where an operator between two operands comes next. -/
def leading? : List Raw → Option Word
  | [] => none
  | argument :: rest =>
      match word? argument, rest with
      | some (.unary _), [] => none
      | some (.unary operator), [_] => some (.unary operator)
      | some (.unary operator), next :: _ :: _ =>
          if (binary? next).isSome then none else some (.unary operator)
      | some .openParen, [] => none
      | found, _ => found

def fileHolds (place : Place) (letter : Char) (path : Raw) : Bool :=
  let path := Raw.toBytes path
  let entry := match place.files.find place.directory path with
    | .ok (_, entry) => some entry
    | .error _ => none
  match letter, entry with
  | _, none => false
  | 'e', _ | 'r', _ | 'w', _ | 'O', _ | 'G', _ => true
  | 'f', some (.file _ _) => true
  | 'd', some .directory | 'x', some .directory | 's', some .directory => true
  | 'x', some (.file _ executable) => executable
  | 's', some (.file content _) => !content.isEmpty
  | _, _ => false

/-- Whether two paths lead to the same entry. -/
def leadsToSame (place : Place) (a b : Raw) : Bool :=
  match place.files.find place.directory (Raw.toBytes a),
      place.files.find place.directory (Raw.toBytes b) with
  | .ok (a, _), .ok (b, _) => a = b
  | _, _ => false

def number (text : Raw) : Except Fault Int :=
  match Arithmetic.decimal? text with
  | some n => .ok n
  | none => .error (.noNumber text)

def binaryHolds (place : Place) (operator : Binary) (a b : Raw) : Except Fault Bool :=
  let compare (relation : Int → Int → Bool) : Except Fault Bool := do
    return relation (← number a) (← number b)
  let precedes (a b : Raw) : Bool := FileTree.bytesLe (Raw.toBytes a) (Raw.toBytes b) && a ≠ b
  match operator with
  | .same => return a = b
  | .different => return a ≠ b
  | .before => return precedes a b
  | .after => return precedes b a
  | .equal => compare fun a b => a = b
  | .unequal => compare fun a b => a ≠ b
  | .atLeast => compare fun a b => b ≤ a
  | .greater => compare fun a b => b < a
  | .atMost => compare fun a b => a ≤ b
  | .less => compare fun a b => a < b
  | .newer | .older => return false
  | .sameFile => return leadsToSame place a b

def unaryHolds (place : Place) (operator : Unary) (a : Raw) : Except Fault Bool :=
  match operator with
  | .isEmpty => return a.isEmpty
  | .isText => return !a.isEmpty
  | .isTerminal => do
      let _ ← number a
      return false
  | .file letter => return fileHolds place letter a

mutual

/-- A condition of which one part has to hold, from a place in the arguments where a word was found;
and the arguments from the last one that was used. -/
def disjunction (place : Place) (found : Option Word) (arguments : List Raw) :
    Nat → Except Fault (Bool × List Raw)
  | 0 => .error .unclosed
  | fuel + 1 => do
      let (first, arguments) ← conjunction place found arguments fuel
      match leading? (arguments.drop 1) with
      | some .or => do
          let arguments := arguments.drop 2
          let (second, arguments) ← disjunction place (leading? arguments) arguments fuel
          return (first || second, arguments)
      | _ => return (first, arguments)
termination_by structural fuel => fuel

/-- A condition of which all parts have to hold. -/
def conjunction (place : Place) (found : Option Word) (arguments : List Raw) :
    Nat → Except Fault (Bool × List Raw)
  | 0 => .error .unclosed
  | fuel + 1 => do
      let (first, arguments) ← negation place found arguments fuel
      match leading? (arguments.drop 1) with
      | some .and => do
          let arguments := arguments.drop 2
          let (second, arguments) ← conjunction place (leading? arguments) arguments fuel
          return (first && second, arguments)
      | _ => return (first, arguments)
termination_by structural fuel => fuel

def negation (place : Place) (found : Option Word) (arguments : List Raw) :
    Nat → Except Fault (Bool × List Raw)
  | 0 => .error .unclosed
  | fuel + 1 => do
      if found ≠ some .not then primary place found arguments fuel
      else match arguments.drop 1 with
        | [] => return (true, arguments)
        | arguments => do
            let (holds, arguments) ← negation place (leading? arguments) arguments fuel
            return (!holds, arguments)
termination_by structural fuel => fuel

def primary (place : Place) (found : Option Word) (arguments : List Raw) :
    Nat → Except Fault (Bool × List Raw)
  | 0 => .error .unclosed
  | fuel + 1 =>
      match arguments, found with
      | [], _ => return (false, [])
      | _ :: rest, some .openParen =>
          match leading? rest with
          | some .closeParen => return (false, rest)
          | next => do
              let (holds, arguments) ← disjunction place next rest fuel
              match leading? (arguments.drop 1) with
              | some .closeParen => return (holds, arguments.drop 1)
              | _ => .error .unclosed
      | operator :: rest, some (.unary test) =>
          match rest with
          | [] => .error (.missingArgument operator)
          | operand :: _ => return (← unaryHolds place test operand, rest)
      | first :: rest, _ =>
          match rest with
          | operator :: more =>
              match leading? rest, more with
              | some (.binary test), second :: _ =>
                  return (← binaryHolds place test first second, more)
              | some (.binary _), [] => .error (.missingArgument operator)
              | _, _ => return (!first.isEmpty, arguments)
          | [] => return (!first.isEmpty, arguments)
termination_by structural fuel => fuel

end

/-- Judge arguments that are not taken in any special way because of their number. -/
def judgePlainly (place : Place) (found : Option Word) (arguments : List Raw) :
    Except Fault Bool := do
  let (holds, rest) ← disjunction place found arguments (8 * arguments.length + 16)
  match rest with
  | first :: _ :: _ => .error (.unexpectedOperator first)
  | _ => return holds

/-- Whether a condition holds.  No arguments at all do not hold. -/
def judge (place : Place) : Nat → List Raw → Except Fault Bool
  | 0, _ => return false
  | _, [] => return false
  | fuel + 1, arguments =>
      let special : Option (Except Fault Bool) :=
        match arguments with
        | [_, operator, _] =>
            if (binary? operator).isSome then some (judgePlainly place none arguments) else none
        | _ => none
      match special with
      | some result => result
      | none =>
          if arguments.length = 3 || arguments.length = 4 then
            if arguments.head? = some ['('] && arguments.getLast? = some [')'] then
              let arguments := (arguments.drop 1).dropLast
              judgePlainly place (leading? arguments) arguments
            else if arguments.head? = some ['!'] then
              (judge place fuel (arguments.drop 1)).map (!·)
            else judgePlainly place (leading? arguments) arguments
          else judgePlainly place (leading? arguments) arguments

end EditorBridge.Shell.Condition
