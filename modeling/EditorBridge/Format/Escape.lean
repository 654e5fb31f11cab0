import EditorBridge.Text.Raw
import EditorBridge.Text.Scan

/-!
# Escapes

What stands for other characters after a backslash, in formats and in arguments.  Shells and the
other programs agree on most of it: the latter know hexadecimal numbers and code points, too.
-/
namespace EditorBridge.Format

inductive Dialect where
  | shell
  | program
  deriving DecidableEq, Repr

/-- Where escapes are interpreted. -/
inductive Site where
  /-- In a format. -/
  | format
  /-- In an argument for which a format asks. -/
  | argument
  /-- In what is to be echoed. -/
  | echo
  deriving DecidableEq, Repr

inductive Escape where
  | means (text rest : Raw)
  /-- Nothing more is to be written. -/
  | ends
  /-- A hexadecimal number is missing. -/
  | broken
  deriving DecidableEq, Repr

def octal? (c : Char) : Option Nat :=
  if '0' ≤ c ∧ c ≤ '7' then some (c.toNat - '0'.toNat) else none

/-- The number of up to some digits, and the rest; nothing if there is no digit. -/
def digits? (digit? : Char → Option Nat) (base limit : Nat) (text : Raw) : Option (Nat × Raw) :=
  let digits := (text.take limit).takeWhile fun c => (digit? c).isSome
  if digits = [] then none
  else some (digits.foldl (fun n c => n * base + (digit? c).getD 0) 0, text.drop digits.length)

def byte (n : Nat) : Raw := [Char.ofNat (n % 256)]

/-- Letters that have a meaning after a backslash. -/
def letters : List (Char × Char) :=
  [('a', '\x07'), ('b', '\x08'), ('e', '\x1b'), ('f', '\x0c'), ('n', '\n'), ('r', '\r'),
    ('t', '\t'), ('v', '\x0b'), ('\\', '\\')]

/-- A code point in an encoding that knows more than bytes. -/
def codePoint (n : Nat) : Raw :=
  match Text.scalar? n with
  | some c => Raw.ofString (String.singleton c)
  | none => []

def escape (dialect : Dialect) (site : Site) : Raw → Escape
  | [] => .means ['\\'] []
  | c :: rest =>
      let plain : Escape := match letters.lookup c with
        | some meant => .means [meant] rest
        | none => .means ['\\', c] rest
      let octal : Option Escape :=
        if c = '0' && site ≠ .format then
          let (n, rest) := (digits? octal? 8 3 rest).getD (0, rest)
          some (.means (byte n) rest)
        else (digits? octal? 8 3 (c :: rest)).map fun (n, rest) => .means (byte n) rest
      match octal with
      | some meaning => meaning
      | none =>
          match dialect, site, c with
          | .shell, .format, 'c' => .means ['\\', 'c'] rest
          | _, _, 'c' => .ends
          | .program, site, 'x' =>
              match digits? Text.hexDigit? 16 2 rest with
              | some (n, rest) => .means (byte n) rest
              | none => if site = .echo then plain else .broken
          | .program, .echo, _ => plain
          | .program, _, '"' => .means ['"'] rest
          | .program, _, 'u' =>
              match digits? Text.hexDigit? 16 4 rest with
              | some (n, rest) => .means (codePoint n) rest
              | none => .broken
          | .program, _, 'U' =>
              match digits? Text.hexDigit? 16 8 rest with
              | some (n, rest) => .means (codePoint n) rest
              | none => .broken
          | _, _, _ => plain

structure Interpreted where
  text : Raw
  /-- Whether more may be written after it. -/
  goesOn : Bool
  isBroken : Bool
  deriving DecidableEq, Repr

/-- A text with its escapes interpreted, of which there are at most so many characters. -/
def interpretFrom (dialect : Dialect) (site : Site) : Nat → Raw → Interpreted
  | 0, text => ⟨text, true, false⟩
  | fuel + 1, text =>
      let plain := text.takeWhile (· ≠ '\\')
      match text.drop plain.length with
      | [] => ⟨plain, true, false⟩
      | _ :: rest =>
          match escape dialect site rest with
          | .ends => ⟨plain, false, false⟩
          | .broken => ⟨plain, false, true⟩
          | .means meaning rest =>
              let more := interpretFrom dialect site fuel rest
              { more with text := plain ++ meaning ++ more.text }

def interpret (dialect : Dialect) (site : Site) (text : Raw) : Interpreted :=
  interpretFrom dialect site (text.length + 1) text

end EditorBridge.Format
