/-!
# JSON values

Values of JSON, the format of answers to a suggestion, and their compact written form: no white space, fields in the order
given.  Numbers keep their text, so that no value is lost to a machine's arithmetic.
-/
namespace EditorBridge

inductive Json where
  | null
  | bool (value : Bool)
  | number (digits : List Char)
  | string (text : List Char)
  | array (items : List Json)
  | object (fields : List (List Char × Json))

namespace Json

/-- A hexadecimal digit, in lower case. -/
def hexDigit (n : Nat) : Char := (Nat.digitChar n)

/-- One character as it stands in a written string: quote, backslash and control characters have
escapes, every other character stands for itself. -/
def escape (c : Char) : List Char :=
  match c with
  | '"' => ['\\', '"']
  | '\\' => ['\\', '\\']
  | '\x08' => ['\\', 'b']
  | '\x0c' => ['\\', 'f']
  | '\n' => ['\\', 'n']
  | '\r' => ['\\', 'r']
  | '\t' => ['\\', 't']
  | c =>
      if c.toNat < 0x20 then ['\\', 'u', '0', '0', hexDigit (c.toNat / 16), hexDigit (c.toNat % 16)]
      else [c]

def quote (text : List Char) : List Char := '"' :: text.flatMap escape ++ ['"']

mutual

def render : Json → List Char
  | null => "null".toList
  | bool true => "true".toList
  | bool false => "false".toList
  | number digits => digits
  | string text => quote text
  | array items => '[' :: renderItems items ++ [']']
  | object fields => '{' :: renderFields fields ++ ['}']

/-- The items of an array, separated by commas. -/
def renderItems : List Json → List Char
  | [] => []
  | [item] => render item
  | item :: rest => render item ++ ',' :: renderItems rest

/-- The fields of an object, separated by commas. -/
def renderFields : List (List Char × Json) → List Char
  | [] => []
  | [(key, value)] => quote key ++ ':' :: render value
  | (key, value) :: rest => quote key ++ ':' :: render value ++ ',' :: renderFields rest

end

/-- The value of a key; of two fields with one key the last counts. -/
def field? (key : List Char) : Json → Option Json
  | object fields => fields.reverse.lookup key
  | _ => none

end Json

end EditorBridge
