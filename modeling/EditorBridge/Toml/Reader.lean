import EditorBridge.Toml.Scalar
import EditorBridge.Toml.Section
import EditorBridge.Toml.Token

/-!
# Reading TOML

This stands for the `toml` library, which reads TOML 1.1.  The configuration relies on one of its
rules: in a document that is read no table has a key twice (`Document.unambiguous_parse?`).  What a
file sets is decided from the values alone (`Config.Schema`).

A document is a sequence of statements, one a line: headers of tables and keys with values.  A line
end inside brackets or braces does not end a statement, so the tokens are first cut into statements.

The value of a statement is read one token at a time.  The reader's state is what it expects next,
with the arrays and inline tables still open, of which there may be at most 80.
-/
namespace EditorBridge.Toml

namespace Key

def isBare (c : Char) : Bool := c.isAlphanum || c = '_' || c = '-'

inductive Piece where
  | part (text : List Char)
  | dot
  deriving DecidableEq, Repr

/-- The pieces of a word: bare parts and dots. -/
def wordPieces : List Char → List Piece
  | [] => []
  | '.' :: rest => .dot :: wordPieces rest
  | c :: rest =>
      match wordPieces rest with
      | .part text :: more => .part (c :: text) :: more
      | more => .part [c] :: more

def pieces? : List Token → Option (List Piece)
  | [] => some []
  | .space :: rest => pieces? rest
  | .quoted text false :: rest => (pieces? rest).map (.part text :: ·)
  | .word text :: rest =>
      if text.all fun c => isBare c || c = '.' then (pieces? rest).map (wordPieces text ++ ·)
      else none
  | _ => none

def parts? : List Piece → Option (List String)
  | [.part text] => some [String.ofList text]
  | .part text :: .dot :: rest => (parts? rest).map (String.ofList text :: ·)
  | _ => none

/-- The parts of a key: those before the last, and the last. -/
def parse? (tokens : List Token) : Option (List String × String) := do
  let parts ← pieces? tokens >>= parts?
  let last ← parts.getLast?
  return (parts.dropLast, last)

end Key

/-- An array or inline table that is still open. -/
inductive Frame where
  /-- The items of an array, in reverse. -/
  | array (items : List Value)
  | table (entries : Entries)
  /-- An inline table whose next entry has its key but not yet its value. -/
  | entry (entries : Entries) (path : List String) (key : String)

inductive Expected where
  | value (stack : List Frame)
  /-- A value, or the end of the array. -/
  | item (items : List Value) (stack : List Frame)
  /-- A key, of which the tokens given were read, in reverse; or the end of the inline table. -/
  | key (tokens : List Token) (entries : Entries) (stack : List Frame)
  /-- A comma, or the end of the innermost frame. -/
  | more (frame : Frame) (stack : List Frame)
  | nothing (value : Value)

namespace Expected

/-- How many arrays and inline tables may be open at a time. -/
def depthLimit : Nat := 80

def complete (v : Value) : List Frame → Option Expected
  | [] => some (nothing v)
  | .array items :: stack => some (more (.array (v :: items)) stack)
  | .entry entries path name :: stack => do
      return more (.table (← Entries.insert path name v .named entries)) stack
  | .table _ :: _ => none

/-- The state after the first token of a value. -/
def start (stack : List Frame) : Token → Option Expected
  | .quoted text _ => complete (.string (String.ofList text)) stack
  | .word text => do complete (← Scalar.decode? text) stack
  | .openBracket => if stack.length < depthLimit then some (item [] stack) else none
  | .openBrace => if stack.length < depthLimit then some (key [] [] stack) else none
  | _ => none

def step : Expected → Token → Option Expected
  | value stack, .space => some (value stack)
  | value stack, token => start stack token
  | item items stack, .space | item items stack, .lineEnd => some (item items stack)
  | item items stack, .closeBracket => complete (.array items.reverse) stack
  | item items stack, token => start (.array items :: stack) token
  | key [] entries stack, .space | key [] entries stack, .lineEnd => some (key [] entries stack)
  | key [] entries stack, .closeBrace => complete (Item.table .named entries).toValue stack
  | key tokens entries stack, .equals => do
      let (path, name) ← Key.parse? tokens.reverse
      return value (.entry entries path name :: stack)
  | key tokens entries stack, token => some (key (token :: tokens) entries stack)
  | more frame stack, .space => some (more frame stack)
  | more (.array items) stack, .lineEnd => some (more (.array items) stack)
  | more (.array items) stack, .comma => some (item items stack)
  | more (.array items) stack, .closeBracket => complete (.array items.reverse) stack
  | more (.table entries) stack, .lineEnd => some (more (.table entries) stack)
  | more (.table entries) stack, .comma => some (key [] entries stack)
  | more (.table entries) stack, .closeBrace => complete (Item.table .named entries).toValue stack
  | nothing v, .space => some (nothing v)
  | _, _ => none

end Expected

def Value.ofTokens? (tokens : List Token) : Option Value := do
  match ← tokens.foldlM Expected.step (.value []) with
  | .nothing value => some value
  | _ => none

/-- A document being read: its entries, and the path of the table that keys belong to. -/
structure Document where
  entries : Entries
  current : List String

namespace Document

/-- The tokens of each statement.  The depth counts the brackets and braces that are open. -/
def statements (depth : Nat) : List Token → List (List Token)
  | [] => [[]]
  | .lineEnd :: rest =>
      if depth = 0 then [] :: statements 0 rest else extend .lineEnd (statements depth rest)
  | token :: rest =>
      let depth := match token with
        | .openBracket | .openBrace => depth + 1
        | .closeBracket | .closeBrace => depth - 1
        | _ => depth
      extend token (statements depth rest)
where
  /-- Put a token in front of the first statement. -/
  extend (token : Token) : List (List Token) → List (List Token)
    | [] => [[token]]
    | statement :: rest => (token :: statement) :: rest

/-- Tokens without the white space they start with. -/
def skipSpace (tokens : List Token) : List Token := tokens.dropWhile (· = .space)

/-- Tokens without white space at their ends. -/
def trim (tokens : List Token) : List Token := (skipSpace (skipSpace tokens).reverse).reverse

/-- Name a table, which the keys that follow belong to. -/
def header (document : Document) (element : Bool) (tokens : List Token) : Option Document := do
  let (path, key) ← Key.parse? tokens
  let name := if element then Entries.nameElement else Entries.nameTable
  return ⟨← name path key .named document.entries, path ++ [key]⟩

/-- Add a key with its value to the current table. -/
def assign (document : Document) (key value : List Token) : Option Document := do
  let (path, key) ← Key.parse? key
  let value ← Value.ofTokens? value
  let entries ←
    Entries.descend false (Entries.insert path key value) document.current .named document.entries
  return { document with entries }

def step (document : Document) (statement : List Token) : Option Document :=
  match trim statement with
  | [] => some document
  | .openBracket :: .openBracket :: rest =>
      match rest.reverse with
      | .closeBracket :: .closeBracket :: inner => header document true inner.reverse
      | _ => none
  | .openBracket :: rest =>
      match rest.reverse with
      | .closeBracket :: inner => header document false inner.reverse
      | _ => none
  | tokens =>
      match tokens.dropWhile (· ≠ .equals) with
      | .equals :: value => assign document (tokens.takeWhile (· ≠ .equals)) value
      | _ => none

/-- A byte order mark may come first. -/
def withoutMark : List Char → List Char
  | '\uFEFF' :: rest => rest
  | s => s

def parse? (text : String) : Option Table := do
  let tokens ← Token.lex (withoutMark text.toList)
  let document ← (statements 0 tokens).foldlM step ⟨[], []⟩
  return Item.finishEntries document.entries

end Document

end EditorBridge.Toml
