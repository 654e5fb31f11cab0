import EditorBridge.Regex.Reader
import EditorBridge.Utility.Quantity
import EditorBridge.Utility.Records.Program
import EditorBridge.Utility.Records.Value

/-!
# Tokens of programs about records

Numbers, texts and regular expressions, names, keywords and signs.  A slash starts a regular
expression where nothing is there that could be divided.
-/
namespace EditorBridge.Utility.Records

/-- What is wrong with a program, and on which line. -/
inductive Fault where
  | at (line : Nat) (message : Raw)
  | character (line : Nat) (c : Char)
  /-- A brace closes nothing. -/
  | brace (line : Nat)

def Fault.messages : Fault → List Raw
  | .at line message => ["line ".toList ++ Raw.ofNat line ++ ": ".toList ++ message]
  | character line c =>
      [Raw.ofNat line ++ ": unexpected character '".toList ++ [c, '\'']]
  | brace line =>
      ["extra '\x7d'", "syntax error at or near end of line"].map fun message =>
        "line ".toList ++ Raw.ofNat line ++ ": ".toList ++ message.toList

/-- Something that a program consists of. -/
inductive Token where
  | number (value : Float)
  | text (raw : Raw)
  | pattern (raw : Raw)
  | name (raw : Raw)
  /-- A name with an opening parenthesis right behind it. -/
  | caller (raw : Raw)
  | primitive (primitive : Primitive) (name : String)
  | keyword (word : String)
  | sign (sign : String)
  | newline
  | finish

namespace Token

def keywords : List String :=
  ["BEGIN", "END", "function", "if", "else", "while", "for", "do", "break", "continue", "next",
    "nextfile", "exit", "return", "print", "printf", "getline", "delete", "in"]

/-- Functions that need no definition, with the least and the greatest number of arguments. -/
def primitives : List (String × Primitive × Nat × Nat) :=
  [("length", .length, 0, 1), ("substr", .substr, 2, 3), ("index", .index, 2, 2),
    ("split", .split, 2, 3), ("sub", .sub, 2, 3), ("gsub", .gsub, 2, 3),
    ("match", .matching, 2, 2), ("sprintf", .sprintf, 1, 255), ("sin", .sine, 1, 1),
    ("cos", .cosine, 1, 1), ("atan2", .arctangent, 2, 2), ("exp", .exponential, 1, 1),
    ("log", .logarithm, 1, 1), ("sqrt", .root, 1, 1), ("int", .whole, 1, 1),
    ("rand", .random, 0, 0), ("srand", .seed, 0, 1), ("tolower", .lower, 1, 1),
    ("toupper", .upper, 1, 1), ("system", .system, 1, 1), ("close", .close, 1, 1),
    ("fflush", .flush, 0, 1)]

/-- Signs, longer ones before shorter ones that they start with. -/
def signs : List String :=
  ["&&", "||", "++", "--", "+=", "-=", "*=", "/=", "%=", "^=", "==", "<=", ">=", "!=", "!~", ">>",
    "\x7b", "\x7d", "(", ")", "[", "]", ";", ",", "+", "-", "*", "/", "%", "^", "!", ">", "<", "|",
    "?", ":", "~", "$", "="]

def shown : Token → Raw
  | number value => (Value.number value).toText "%.6g".toList
  | text raw => '"' :: raw ++ ['"']
  | pattern raw => '/' :: raw ++ ['/']
  | name raw | caller raw => raw
  | primitive _ word | keyword word | sign word => word.toList
  | newline => "end of line".toList
  | finish => "end of file".toList

/-- Whether something stands before a slash that can be divided. -/
def isOperand : Token → Bool
  | number _ | text _ | pattern _ | name _ | primitive _ _ => true
  | sign word => [")", "]", "$", "++", "--"].contains word
  | _ => false

end Token

/-- The letters after a backslash, with what they stand for. -/
def escapes : List (Char × Char) :=
  [('"', '"'), ('\\', '\\'), ('a', '\x07'), ('b', '\x08'), ('f', '\x0c'), ('n', '\n'),
    ('r', '\r'), ('t', '\t'), ('v', '\x0b')]

/-- The character after a backslash as which something at the start of a text counts, if it does so,
and how much of the text that is. -/
def escapeAt? (text : Raw) : Option (Char × Nat) :=
  match text with
  | [] => none
  | c :: rest =>
      match escapes.lookup c with
      | some meaning => some (meaning, 1)
      | none =>
          let isOctal (c : Char) : Bool := '0' ≤ c && c ≤ '7'
          if isOctal c then
            let digits := (text.take 3).takeWhile isOctal
            let n := digits.foldl (fun n c => n * 8 + (c.toNat - 48)) 0
            some (Char.ofNat (n % 256), digits.length)
          else if c = 'x' then
            match (rest.take 2).takeWhile fun c => (Text.hexDigit? c).isSome with
            | [] => none
            | digits =>
                let n := digits.foldl (fun n c => n * 16 + (Text.hexDigit? c).getD 0) 0
                some (Char.ofNat n, digits.length + 1)
          else none

/-- A text with backslashes replaced by what they mean. -/
def interpreted : Raw → Raw
  | [] => []
  | '\\' :: '\n' :: rest => interpreted rest
  | '\\' :: rest =>
      match escapeAt? rest with
      | some (meaning, count) => meaning :: interpreted (rest.drop count)
      | none => '\\' :: interpreted rest
  | c :: rest => c :: interpreted rest
termination_by text => text.length

/-- The text up to a quote, as it is written, and what comes after the quote. -/
def quotedIn : Raw → Option (Raw × Raw)
  | [] | '\n' :: _ => none
  | '"' :: rest => some ([], rest)
  | '\\' :: c :: rest => (quotedIn rest).map fun (text, rest) => ('\\' :: c :: text, rest)
  | c :: rest => (quotedIn rest).map fun (text, rest) => (c :: text, rest)

/-- The text up to a slash that stands outside of sets, and what comes after the slash. -/
def patternIn : Nat → Raw → Option (Raw × Raw)
  | _, [] | _, '\n' :: _ => none
  | 0, '/' :: rest => some ([], rest)
  | depth, '\\' :: '/' :: rest =>
      (patternIn (depth - 1) rest).map fun (text, rest) => ('/' :: text, rest)
  | depth, '\\' :: c :: rest =>
      (patternIn (depth - 1) rest).map fun (text, rest) => ('\\' :: c :: text, rest)
  | 0, '[' :: '^' :: rest =>
      (patternIn 2 rest).map fun (text, rest) => ('[' :: '^' :: text, rest)
  | 0, '[' :: rest => (patternIn 2 rest).map fun (text, rest) => ('[' :: text, rest)
  | 1, ']' :: rest => (patternIn 0 rest).map fun (text, rest) => (']' :: text, rest)
  | depth, c :: rest =>
      (patternIn (min depth 1) rest).map fun (text, rest) => (c :: text, rest)

/-- What a regular expression has for a backslash and a character with others after it, and how many
of these others belong to it. -/
def plainAt (c : Char) (rest : Raw) : Raw × Nat :=
  if !(c.isAlphanum || c = '"' || c = '<' || c = '>' || c = '\'' || c = Char.ofNat 96) then
    (['\\', c], 0)
  else
    match escapeAt? (c :: rest) with
    | some (meaning, count) =>
        (if meaning.isAlphanum then [meaning] else ['\\', meaning], count - 1)
    | none => ([c], 0)

/-- A regular expression with backslashes before letters replaced by what they mean here. -/
def plainly : Raw → Raw
  | [] => []
  | '\\' :: c :: rest => (plainAt c rest).1 ++ plainly (rest.drop (plainAt c rest).2)
  | c :: rest => c :: plainly rest
termination_by text => text.length

/-- What is wrong with a regular expression, in words. -/
def regexFault : EditorBridge.Regex.Fault → String
  | .openGroup => "missing ')'"
  | .closeGroup => "missing '('"
  | .bracket | .invalid => "bad class -- [], [^] or [ "
  | .backslash => "escape at end"
  | _ => "missing operand"

/-- The regular expression that a text is; in a complaint it is shown.  A closing parenthesis that
closes nothing stands for itself. -/
def regexOf (text : Raw) : Except Raw Regex :=
  let read (isStrict : Bool) := EditorBridge.Regex.read ⟨true, isStrict, false⟩ false (plainly text)
  let result := match read true with
    | .error .closeGroup => read false
    | result => result
  match result with
  | .ok (regex, _) => .ok regex
  | .error fault =>
      .error ("regular expression compile failed (".toList ++ (regexFault fault).toList ++
        ")\n".toList ++ text)

def startsName (c : Char) : Bool := c.isAlpha || c = '_'

/-- The keyword, function or name that a word is; what comes after it matters. -/
def wordToken (word rest : Raw) : Token :=
  let name := String.ofList word
  if Token.keywords.contains name then .keyword name
  else match Token.primitives.lookup name with
    | some (primitive, _) => .primitive primitive name
    | none => if rest.head? = some '(' then .caller word else .name word

/-- The decimal number at the start of a text, and what comes after it. -/
def numberToken (text : Raw) : Token × Raw :=
  let whole := text.takeWhile Char.isDigit
  let rest := text.drop whole.length
  let places := match rest with
    | '.' :: rest => '.' :: rest.takeWhile Char.isDigit
    | _ => []
  let rest := rest.drop places.length
  let (_, after) := Format.exponentAfter 'e' rest
  let exponent := rest.take (rest.length - after.length)
  (.number (numberAt (whole ++ places ++ exponent)).1, after)

/-- The tokens of a text with their lines; the last token before it matters. -/
def tokensAfter (before : Token) (line : Nat) : Nat → Raw → Except Fault (List (Token × Nat))
  | 0, _ => .ok []
  | fuel + 1, text =>
      let next (token : Token) (rest : Raw) : Except Fault (List (Token × Nat)) :=
        (tokensAfter token line fuel rest).map ((token, line) :: ·)
      let runaway (what : String) (rest : Raw) : Except Fault (List (Token × Nat)) :=
        .error (.at line (("runaway " ++ what ++ " ").toList ++
          (rest.takeWhile (· ≠ '\n')).take 11 ++ " ...".toList))
      match text with
      | [] => .ok [(.finish, line)]
      | '\n' :: rest =>
          (tokensAfter .newline (line + 1) fuel rest).map ((.newline, line) :: ·)
      | '\\' :: '\n' :: rest => tokensAfter before (line + 1) fuel rest
      | '#' :: rest => tokensAfter before line fuel (rest.dropWhile (· ≠ '\n'))
      | '"' :: rest =>
          match quotedIn rest with
          | some (raw, rest) => next (.text (interpreted raw)) rest
          | none => runaway "string constant" text
      | c :: rest =>
          if c = ' ' || c = '\t' || c = '\r' then tokensAfter before line fuel rest
          else if c = '/' && !before.isOperand then
            match patternIn 0 rest with
            | some (raw, rest) => next (.pattern raw) rest
            | none => runaway "regular expression" text
          else if startsName c then
            let word := text.takeWhile fun c => c.isAlphanum || c = '_'
            let rest := text.drop word.length
            next (wordToken word rest) rest
          else if c.isDigit || (c = '.' && rest.head?.any Char.isDigit) then
            let (token, rest) := numberToken text
            next token rest
          else
            match Token.signs.find? fun sign => sign.toList.isPrefixOf text with
            | some sign => next (.sign sign) (text.drop sign.length)
            | none => .error (.character line c)

def tokensOf (text : Raw) : Except Fault (List (Token × Nat)) :=
  let text := if text.getLast? = some '\n' then text else text ++ ['\n']
  tokensAfter .newline 1 (text.length + 1) text

end EditorBridge.Utility.Records
