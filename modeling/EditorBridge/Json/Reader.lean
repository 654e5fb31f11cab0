import EditorBridge.Json.Token
import EditorBridge.Json.Value

/-!
# Reading JSON

This stands for the `serde_json` library, which reads strict JSON.  Two of its rules are relied on:
a written value is read back (`parse?_render`), and it is written on one line (`plain_render`).

The reader takes one token at a time.  Its state is what it expects next, with the arrays and
objects that are still open; each of those holds its parts in reverse.  At most 127 may be open at
a time.
-/
namespace EditorBridge.Json

/-- An array or object that is still open. -/
inductive Frame where
  | array (items : List Json)
  | object (fields : List (List Char × Json))
  /-- An object whose next field has its key but not yet its value. -/
  | field (fields : List (List Char × Json)) (key : List Char)

inductive Expected where
  | value (stack : List Frame)
  /-- A value, or the end of the array just opened. -/
  | item (stack : List Frame)
  /-- A key, or the end of the object just opened. -/
  | firstKey (stack : List Frame)
  | key (fields : List (List Char × Json)) (stack : List Frame)
  | colon (fields : List (List Char × Json)) (key : List Char) (stack : List Frame)
  /-- A comma, or the end of the innermost frame. -/
  | more (frame : Frame) (stack : List Frame)
  | nothing (value : Json)

namespace Expected

/-- How many arrays and objects may be open at a time. -/
def depthLimit : Nat := 127

def complete (v : Json) : List Frame → Option Expected
  | [] => some (nothing v)
  | .array items :: stack => some (more (.array (v :: items)) stack)
  | .field fields name :: stack => some (more (.object ((name, v) :: fields)) stack)
  | .object _ :: _ => none

/-- The state after the first token of a value. -/
def start (stack : List Frame) : Token → Option Expected
  | .null => complete .null stack
  | .bool b => complete (.bool b) stack
  | .number digits => complete (.number digits) stack
  | .string text => complete (.string text) stack
  | .openArray => if stack.length < depthLimit then some (item stack) else none
  | .openObject => if stack.length < depthLimit then some (firstKey stack) else none
  | _ => none

def step : Expected → Token → Option Expected
  | value stack, token => start stack token
  | item stack, .closeArray => complete (.array []) stack
  | item stack, token => start (.array [] :: stack) token
  | firstKey stack, .closeObject => complete (.object []) stack
  | firstKey stack, .string name => some (colon [] name stack)
  | key fields stack, .string name => some (colon fields name stack)
  | colon fields name stack, .colon => some (value (.field fields name :: stack))
  | more (.array items) stack, .comma => some (value (.array items :: stack))
  | more (.array items) stack, .closeArray => complete (.array items.reverse) stack
  | more (.object fields) stack, .comma => some (key fields stack)
  | more (.object fields) stack, .closeObject => complete (.object fields.reverse) stack
  | _, _ => none

end Expected

def ofTokens? (tokens : List Token) : Option Json := do
  match ← tokens.foldlM Expected.step (.value []) with
  | .nothing value => some value
  | _ => none

def parse? (text : List Char) : Option Json := Token.lex text >>= ofTokens?

end EditorBridge.Json
