import EditorBridge.Text.Base64
import EditorBridge.Utility.Basic

/-!
# Bytes in sight

Files as numbers or characters, and bytes as letters that pass through everything.
-/
namespace EditorBridge.Utility.Dumping

open Host Act

inductive Style where
  /-- Numbers of so many bytes, in a base; perhaps with a sign. -/
  | numbers (size base : Nat) (signed : Bool)
  /-- Characters, with escapes for those that cannot be seen. -/
  | characters
  /-- The names of characters. -/
  | names
  deriving DecidableEq, Repr

/-- A style, and whether the line is shown as a text, too. -/
structure Column where
  style : Style
  withText : Bool
  deriving DecidableEq, Repr

/-- How many bytes are shown together. -/
def Style.size : Style → Nat
  | numbers size _ _ => size
  | _ => 1

/-- How many characters a number takes at most. -/
def digitsFor (size base : Nat) (signed : Bool) : Nat :=
  let greatest := Nat.pow 256 size - 1
  let digits := (Nat.toDigits base greatest).length
  if signed then (Nat.toDigits base (greatest / 2)).length + 1 else digits

/-- The room for what is shown together. -/
def Style.width : Style → Nat
  | numbers size base signed => 1 + digitsFor size base signed
  | _ => 4

/-- The names of characters that cannot be seen. -/
def controlNames : List String :=
  ["nul", "soh", "stx", "etx", "eot", "enq", "ack", "bel", "bs", "ht", "nl", "vt", "ff", "cr", "so",
    "si", "dle", "dc1", "dc2", "dc3", "dc4", "nak", "syn", "etb", "can", "em", "sub", "esc", "fs",
    "gs", "rs", "us", "sp"]

def padded (filling : Char) (width : Nat) (text : Raw) : Raw :=
  List.replicate (width - text.length) filling ++ text

def Style.show (style : Style) (bytes : Raw) : Raw :=
  match style with
  | numbers size base signed =>
      let n := bytes.reverse.foldl (fun n c => n * 256 + c.toNat) 0
      let limit := Nat.pow 256 size
      if base = 10 then
        if signed && limit / 2 ≤ n then '-' :: Raw.ofNat (limit - n) else Raw.ofNat n
      else padded '0' (digitsFor size base false) (Nat.toDigits base n)
  | characters =>
      let c := bytes.headD '\x00'
      if Quoting.isVisible c then [c]
      else if c = '\x00' then "\\0".toList
      else match Quoting.escapeLetters.lookup c with
        | some letter => ['\\', letter]
        | none => padded '0' 3 (Nat.toDigits 8 c.toNat)
  | names =>
      let n := (bytes.headD '\x00').toNat % 128
      match controlNames[n]? with
      | some name => name.toList
      | none => if n = 127 then "del".toList else [Char.ofNat n]

/-- Bytes in groups of some size, the last one being filled with zeros. -/
def groups (size : Nat) : Nat → Raw → List Raw
  | 0, _ => []
  | _, [] => []
  | fuel + 1, bytes =>
      let group := bytes.take size
      (group ++ List.replicate (size - group.length) '\x00') ::
        groups size fuel (bytes.drop size)

/-- The width that bytes in a line take, which is the same for all columns. -/
def lineWidth (columns : List Column) (count : Nat) : Nat :=
  (columns.map fun column => count / column.style.size * column.style.width).foldl max 0

def line (columns : List Column) (perLine : Nat) (bytes : Raw) (column : Column) : Raw :=
  let whole := lineWidth columns perLine
  let count := perLine / column.style.size
  let spare := whole - count * column.style.width
  let pieces := groups column.style.size (bytes.length + 1) bytes
  let shown := (pieces.zipIdx.map fun (piece, index) =>
    let extra := spare * (index + 1) / count - spare * index / count
    padded ' ' (column.style.width + extra) (column.style.show piece)).flatten
  if column.withText then
    let text := bytes.map fun c => if Quoting.isVisible c then c else '.'
    shown ++ List.replicate (whole - shown.length) ' ' ++ "  >".toList ++ text ++ ['<']
  else shown

structure Offsets where
  base : Nat
  width : Nat
  isShown : Bool

def Offsets.show (offsets : Offsets) (n : Nat) : Raw :=
  if offsets.isShown then padded '0' offsets.width (Nat.toDigits offsets.base n) else []

/-- Lines of a dump, equal ones being left out. -/
def dump (columns : List Column) (offsets : Offsets) (perLine : Nat) (all : Bool) :
    Nat → Nat → Option Raw → Bool → Raw → Act Unit
  | 0, _, _, _, _ => return ()
  | fuel + 1, offset, before, isLeftOut, bytes => do
      let piece := bytes.take perLine
      if piece.isEmpty then
        if offsets.isShown then putLine (offsets.show offset)
        return ()
      let rest := bytes.drop perLine
      let repeats := !all && before = some piece && piece.length = perLine && !rest.isEmpty
      if repeats then
        if !isLeftOut then putLine ['*']
      else
        for (column, index) in columns.zipIdx do
          let heading := offsets.show offset
          putLine ((if index = 0 then heading else List.replicate heading.length ' ') ++
            line columns perLine piece column)
      dump columns offsets perLine all fuel (offset + piece.length) (some piece) repeats rest

/-- The size that letters stand for, and what comes after them. -/
def sizeIn (default : Nat) : Raw → Nat × Raw
  | 'C' :: rest => (1, rest)
  | 'S' :: rest => (2, rest)
  | 'I' :: rest => (4, rest)
  | 'L' :: rest => (8, rest)
  | text =>
      let digits := text.takeWhile Char.isDigit
      match Raw.nat? digits with
      | some n => (n, text.drop digits.length)
      | none => (default, text)

/-- The columns that a text describes; nothing if it does not describe any. -/
def columnsOf : Nat → Raw → Option (List Column)
  | 0, _ => none
  | _, [] => some []
  | fuel + 1, letter :: rest => do
      let (style, rest) ← match letter with
        | 'a' => some (Style.names, rest)
        | 'c' => some (Style.characters, rest)
        | _ =>
            let base? := match letter with
              | 'd' | 'u' => some 10
              | 'o' => some 8
              | 'x' => some 16
              | _ => none
            base?.bind fun base =>
              let (size, rest) := sizeIn 4 rest
              if [1, 2, 4, 8].contains size then
                some (Style.numbers size base (letter = 'd'), rest)
              else none
      let (withText, rest) := match rest with
        | 'z' :: rest => (true, rest)
        | rest => (false, rest)
      let others ← columnsOf fuel rest
      return ⟨style, withText⟩ :: others

def oldColumns : List (Char × Style) :=
  [('a', .names), ('b', .numbers 1 8 false), ('c', .characters), ('d', .numbers 2 10 false),
    ('i', .numbers 4 10 true), ('l', .numbers 8 10 true), ('o', .numbers 2 8 false),
    ('s', .numbers 2 10 true), ('x', .numbers 2 16 false), ('B', .numbers 2 8 false),
    ('D', .numbers 4 10 false), ('H', .numbers 4 16 false), ('O', .numbers 4 8 false),
    ('X', .numbers 4 16 false)]

/-- Show files as numbers or characters. -/
def od : Utility := fun arguments => do
  let options ← optionsOf (table "A:aBbcDdeFfHhIij:LlN:OoS:st:vw::Xx"
    [("skip-bytes", .required, 'j'), ("address-radix", .required, 'A'),
      ("read-bytes", .required, 'N'), ("format", .required, 't'),
      ("output-duplicates", .none, 'v'), ("width", .optional, 'w')]) arguments
  let mut columns : List Column := []
  for (letter, value) in options.found do
    match oldColumns.lookup letter with
    | some style => columns := columns ++ [⟨style, false⟩]
    | none =>
        if letter = 't' then
          let text := value.getD []
          match columnsOf (text.length + 1) text with
          | some more => columns := columns ++ more
          | none => giveUp ("invalid type string ".toList ++ Quoting.shown text)
  if columns.isEmpty then columns := [⟨.numbers 2 8 false, false⟩]
  let offsets ← match options.value? 'A' with
    | some ['x'] => pure (⟨16, 6, true⟩ : Offsets)
    | some ['d'] => pure ⟨10, 7, true⟩
    | some ['n'] => pure ⟨10, 0, false⟩
    | some ['o'] | none => pure ⟨8, 7, true⟩
    | some text => giveUp ("invalid output address radix '".toList ++ text.take 1 ++
        "'; it must be one character from [doxn]".toList)
  let number (letter : Char) : Act (Option Nat) := do
    match options.value? letter with
    | none => return none
    | some text =>
        match Raw.nat? text with
        | some n => return some n
        | none => giveUp ("invalid -".toList ++ letter :: " argument ".toList ++ Quoting.shown text)
  let skipped := (← number 'j').getD 0
  let most ← number 'N'
  let width ← number 'w'
  let perLine := if options.has 'w' then width.getD 32 else 16
  let mut content : Raw := []
  let mut status := 0
  for path in orInput options.operands do
    match ← contentOf path with
    | .ok text => content := content ++ text
    | .error error => do
        complainOfFile path error
        status := 1
  if content.isEmpty && status = 1 then return 1
  let bytes := content.drop skipped
  let bytes := match most with
    | some most => bytes.take most
    | none => bytes
  dump columns offsets (max 1 perLine) (options.has 'v') (bytes.length + 1) skipped none false bytes
  return status

/-- Turn bytes into letters, or letters into bytes. -/
def base64 : Utility := fun arguments => do
  let options ← optionsOf (table "diw:" [("decode", .none, 'd'), ("wrap", .required, 'w'),
    ("ignore-garbage", .none, 'i')]) arguments
  let width ← match options.value? 'w' with
    | none => pure 76
    | some text =>
        match Raw.nat? text with
        | some n => pure n
        | none => giveUp ("invalid wrap size: ".toList ++ Quoting.shown text)
  match options.operands with
  | _ :: extra :: _ => extraOperand extra
  | _ => pure ()
  let path := options.operands.headD ['-']
  match ← contentOf path with
  | .error error => do
      complainOfFile path error
      return 1
  | .ok content =>
      if options.has 'd' then do
        let letters := content.filter fun c =>
          if options.has 'i' then (Base64.bits? c).isSome || c = '=' else c ≠ '\n'
        let (bytes, right) := Base64.decode letters
        put bytes
        if !right then giveUp "invalid input".toList
        return 0
      else do
        let letters := Base64.encode content
        if width = 0 then put letters
        else
          for piece in groups width (letters.length + 1) letters do
            putLine (piece.filter (· ≠ '\x00'))
        return 0

end EditorBridge.Utility.Dumping
