import EditorBridge.Text.Utf8

/-!
# Bytes as characters

Programs that pass bytes on without knowing their encoding look at single bytes only.  Here each
byte is the character of its number, so that such programs can be written down with character
literals.
-/
namespace EditorBridge

/-- Bytes, each as the character of its number. -/
abbrev Raw := List Char

namespace Raw

def ofByte (b : UInt8) : Char := Char.ofNat b.toNat

def toByte (c : Char) : UInt8 := UInt8.ofNat c.toNat

def ofBytes (bytes : Bytes) : Raw := bytes.map ofByte

def toBytes (raw : Raw) : Bytes := raw.map toByte

def ofString (text : String) : Raw := ofBytes (Utf8.encode text)

def ofNat (n : Nat) : Raw := Nat.toDigits 10 n

/-- A number in decimal, with a minus sign when it is negative. -/
def ofInt : Int → Raw
  | .ofNat n => ofNat n
  | .negSucc n => '-' :: ofNat (n + 1)

def nat? (raw : Raw) : Option Nat :=
  if raw ≠ [] ∧ raw.all Char.isDigit then
    some (raw.foldl (fun n c => n * 10 + (c.toNat - '0'.toNat)) 0)
  else none

/-- The number that digits with an optional sign stand for. -/
def int? : Raw → Option Int
  | '-' :: digits => (nat? digits).map fun n => -(n : Int)
  | '+' :: digits => (nat? digits).map fun n => (n : Int)
  | digits => (nat? digits).map fun n => (n : Int)

def splitOn (separator : Char) (raw : Raw) : List Raw :=
  raw.foldr
    (fun c parts =>
      if c = separator then [] :: parts
      else match parts with
        | [] => [[c]]
        | part :: parts => (c :: part) :: parts)
    [[]]

def join (separator : Raw) (parts : List Raw) : Raw := (parts.intersperse separator).flatten

end Raw

end EditorBridge
