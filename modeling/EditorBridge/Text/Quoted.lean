import EditorBridge.Unicode.Printable

/-!
# Quoted texts

A text is shown between double quotes so that it fits on one line and can be read back.  NUL, tab,
carriage return, line feed, the double quote and the backslash have escapes of two characters; every
other character without a glyph of its own is written as its code point in hexadecimal.
-/
namespace EditorBridge.Text

open EditorBridge.Unicode

/-- A code point in lower-case hexadecimal, without leading zeros. -/
def hexadecimal (n : Nat) : List Char := Nat.toDigits 16 n

def codePointEscape (c : Char) : List Char :=
  ['\\', 'u', '{'] ++ hexadecimal c.toNat ++ ['}']

def escape (c : Char) : List Char :=
  match c with
  | '\x00' => ['\\', '0']
  | '\t' => ['\\', 't']
  | '\r' => ['\\', 'r']
  | '\n' => ['\\', 'n']
  | '"' => ['\\', '"']
  | '\\' => ['\\', '\\']
  | c => if standsAlone c then [c] else codePointEscape c

def quote (s : List Char) : List Char := '"' :: s.flatMap escape ++ ['"']

/-- Texts in brackets, separated by a comma and a space. -/
def bracketed (items : List (List Char)) : List Char :=
  '[' :: (items.intersperse [',', ' ']).flatten ++ [']']

def quoted (s : String) : String := String.ofList (quote s.toList)

def quotedList (items : List String) : String :=
  String.ofList (bracketed (items.map fun s => quote s.toList))

end EditorBridge.Text
