import EditorBridge.Command.Opcode
import EditorBridge.Text.Quoted
import EditorBridge.Text.Trim

/-!
# Command lines

The commands of the specification, 3 and 6.

An editor sends one command a line.  The line is trimmed and cut at every `::`; the first token is
the argument, and a token that is an opcode's name, wherever it stands, asks for that operation.
Joining the tokens gives the trimmed line back.
-/
namespace EditorBridge

/-- The tokens of a command line, of which there is at least one. -/
structure Command where
  /-- The first token: a symbol or a location. -/
  argument : String
  /-- The tokens after the first. -/
  others : List String
  deriving DecidableEq, Repr

namespace Command

/-- Put a character in front of the first token. -/
def extend (c : Char) : List (List Char) → List (List Char)
  | [] => [[c]]
  | token :: rest => (c :: token) :: rest

/-- Cut a text at each `::`, from the left, so that of three colons the last belongs to the token
after them. -/
def split : List Char → List (List Char)
  | [] => [[]]
  | ':' :: ':' :: rest => [] :: split rest
  | c :: rest => extend c (split rest)

/-- Join tokens with `::`. -/
def join : List (List Char) → List Char
  | [] => []
  | [token] => token
  | token :: rest => token ++ ':' :: ':' :: join rest

def parse (line : String) : Command :=
  match (split (Text.trim line.toList)).map String.ofList with
  | [] => ⟨"", []⟩
  | token :: rest => ⟨token, rest⟩

def tokens (command : Command) : List String := command.argument :: command.others

/-- The command as one text, its tokens joined with `::`. -/
def render (command : Command) : String := String.ofList (join (command.tokens.map String.toList))

def has (command : Command) (op : Opcode) : Bool := command.tokens.contains op.name

/-- The operations asked for, each once, in the order in which they are carried out. -/
def opcodes (command : Command) : List Opcode := Opcode.all.filter command.has

/-- The token list in brackets, each token between double quotes, all on one line. -/
def echo (command : Command) : String := Text.quotedList command.tokens

@[simp] theorem extend_ne_nil (c : Char) (tokens : List (List Char)) : extend c tokens ≠ [] := by
  cases tokens <;> simp [extend]

theorem split_ne_nil (s : List Char) : split s ≠ [] := by
  fun_cases split s <;> simp

theorem join_extend (c : Char) {tokens : List (List Char)} (h : tokens ≠ []) :
    join (extend c tokens) = c :: join tokens := by
  match tokens, h with
  | [token], _ => rfl
  | token :: next :: rest, _ => rfl

/-- Nothing but the separators is lost. -/
theorem join_split (s : List Char) : join (split s) = s := by
  fun_induction split s with
  | case1 => rfl
  | case2 rest ih =>
    cases h : split rest with
    | nil => exact absurd h (split_ne_nil rest)
    | cons token tokens => rw [h] at ih; simp [join, ih]
  | case3 c rest _ ih => rw [join_extend c (split_ne_nil rest), ih]

end Command

end EditorBridge
