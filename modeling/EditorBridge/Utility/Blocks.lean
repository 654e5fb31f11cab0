import EditorBridge.Utility.Files
import EditorBridge.Utility.Quantity

/-!
# Files in blocks

Copying some blocks of a file to a place in another one, cutting a file into several ones, and
giving a file another size.
-/
namespace EditorBridge.Utility.Blocks

open Host Act

/-- The number that an operand has for its value. -/
def count (text : Raw) : Act Nat := do
  let parts := (Raw.splitOn 'x' text)
  let mut product := 1
  for part in parts do
    match Quantity.read "cwbkKmMGTPEZYRQ0" part with
    | .ok n => product := product * (if part = [] then 0 else n)
    | .error _ => giveUp ("invalid number: ".toList ++ Quoting.shown text)
  if text = [] || parts.any (· = []) then giveUp ("invalid number: ".toList ++ Quoting.shown text)
  return product

def operandsOf (known : List String) (arguments : List Raw) : Act (List (String × Raw)) := do
  let mut found := []
  for argument in arguments do
    let name := argument.takeWhile (· ≠ '=')
    match argument.drop name.length, known.find? fun word => word.toList = name with
    | _ :: value, some word => found := (word, value) :: found
    | _, _ => misuse ("unrecognized operand ".toList ++ Quoting.shown argument)
  return found

/-- Go through the input in pieces of a size, and give what has been read, piece by piece, the last
one first. -/
def piecesFrom (descriptor size : Nat) : Nat → Nat → List Raw → Act (List Raw)
  | 0, _, _ => throw .overdue
  | _, 0, pieces => return pieces
  | rounds + 1, most + 1, pieces => do
      match ← readFrom descriptor size with
      | .ok [] => return pieces
      | .ok piece => do
          labourFor piece
          if textLimit < (pieces.length + 1) * size && (← channel? descriptor) = some .zeros then
            throw .overdue
          piecesFrom descriptor size rounds most (piece :: pieces)
      | .error error => do
          complainOf "error reading 'standard input'".toList error
          throw .failed

def converted (words : List Raw) (text : Raw) : Raw :=
  let has (word : String) : Bool := words.any (· = word.toList)
  let text := if has "ucase" then text.map Char.toUpper else text
  let text := if has "lcase" then text.map Char.toLower else text
  if has "swab" then
    let rec swapped : Raw → Raw
      | a :: b :: rest => b :: a :: swapped rest
      | rest => rest
    swapped text
  else text

def writeAt (path : Raw) (offset : Nat) (keeps : Bool) (text : Raw) : Act Unit := do
  let before ← match ← entryOf path with
    | .ok (_, .file content _) => pure (Raw.ofBytes content)
    | _ => pure []
  match ← openPath path .write with
  | .error error => do
      complainOf ("failed to open ".toList ++ Quoting.betweenQuotes path) error
      throw .failed
  | .ok channel => do
      setChannel 1 (some channel)
      let gap := List.replicate (offset - before.length) '\x00'
      let after := if keeps then before.drop (offset + text.length) else []
      match channel with
      | .file _ => put (before.take offset ++ gap ++ text ++ after)
      | _ => put text

def dd : Utility := fun arguments => do
  let operands ← operandsOf ["if", "of", "bs", "ibs", "obs", "count", "skip", "seek", "conv",
    "status", "iflag", "oflag", "cbs"] arguments
  let number (name : String) (default : Nat) : Act Nat := do
    match operands.lookup name with
    | some text => count text
    | none => return default
  let size ← number "bs" (← number "ibs" 512)
  let outputSize ← number "bs" (← number "obs" 512)
  if size = 0 then giveUp "invalid number: '0'".toList
  let most ← match operands.lookup "count" with
    | some text => count text
    | none => pure roundLimit
  let skipped ← number "skip" 0
  let offset := (← number "seek" 0) * outputSize
  let words := Raw.splitOn ',' ((operands.lookup "conv").getD [])
  let path := (operands.lookup "if").getD ['-']
  let run (descriptor : Nat) : Act (List Raw) := do
    let _ ← piecesFrom descriptor size roundLimit skipped []
    return (← piecesFrom descriptor size roundLimit most []).reverse
  match ← withInput path run with
  | .error error => do
      complainOf ("failed to open ".toList ++ Quoting.betweenQuotes path) error
      return 1
  | .ok pieces => do
      let text := converted words pieces.flatten
      match operands.lookup "of" with
      | some path => writeAt path offset (words.any (· = "notrunc".toList)) text
      | none => put text
      pass
      let whole := (pieces.filter fun piece => piece.length = size).length
      let status := (operands.lookup "status").getD []
      let tally (whole part : Nat) (what : String) : Raw :=
        Raw.ofNat whole ++ '+' :: Raw.ofNat part ++ (" records " ++ what ++ "\n").toList
      if status ≠ "none".toList then
        write 2 (tally whole (pieces.length - whole) "in")
        let outs := if outputSize = size then (whole, pieces.length - whole)
          else (text.length / outputSize, if text.length % outputSize = 0 then 0 else 1)
        write 2 (tally outs.1 outs.2 "out")
        if status ≠ "noxfer".toList then
          let n := text.length
          write 2 (Raw.ofNat n ++ (if n = 1 then " byte" else " bytes").toList ++
            " copied, 0.0001 s, ".toList ++ Raw.ofNat (n / 100) ++ " kB/s\n".toList)
      return 0

/-- Suffixes of names with so many letters, from a number on. -/
def suffix (length n : Nat) : Raw :=
  match length with
  | 0 => []
  | length + 1 => suffix length (n / 26) ++ [Char.ofNat (97 + n % 26)]

def partsOf {α : Type} (size : Nat) : Nat → List α → List (List α)
  | 0, _ => []
  | _, [] => []
  | fuel + 1, items => items.take size :: partsOf size fuel (items.drop size)

/-- Cut a file into several ones. -/
def split : Utility := fun arguments => do
  let options ← optionsOf (table "a:b:dl:n:x" [("suffix-length", .required, 'a'),
    ("bytes", .required, 'b'), ("numeric-suffixes", .none, 'd'), ("lines", .required, 'l'),
    ("number", .required, 'n')]) arguments
  let (path, start) ← match options.operands with
    | [] => pure (['-'], ['x'])
    | [path] => pure (path, ['x'])
    | [path, start] => pure (path, start)
    | _ :: _ :: extra :: _ => extraOperand extra
  let quantity (letter : Char) (kind : String) (text : Raw) : Act Nat := do
    match Quantity.read Quantity.sizeLetters text with
    | .ok n =>
        if n = 0 then
          giveUp (("invalid number of " ++ kind ++ ": ").toList ++ Quoting.shown text)
        else return n
    | .error _ =>
        giveUp (("invalid number of " ++ kind ++ ": ").toList ++ Quoting.shown text ++
          if letter = '\x00' then ['?'] else [])
  let width := ((options.value? 'a').bind Raw.nat?).getD 2
  match ← contentOf path with
  | .error error => do
      complainOf ("cannot open ".toList ++ Quoting.betweenQuotes path ++
        " for reading".toList) error
      return 1
  | .ok content => do
      let parts ← match options.lastOf? "bln" with
        | some 'b' => do
            let size ← quantity 'b' "bytes" ((options.value? 'b').getD [])
            pure (partsOf size (content.length + 1) content)
        | some 'n' => do
            let pieces ← quantity 'n' "chunks" ((options.value? 'n').getD [])
            let size := content.length / pieces
            let whole := (List.range pieces).map fun index =>
              if index + 1 = pieces then content.drop (index * size)
              else (content.drop (index * size)).take size
            pure whole
        | option => do
            let size ← match option with
              | some _ => quantity 'l' "lines" ((options.value? 'l').getD [])
              | none => pure 1000
            let (lines, isEnded) := linesOf '\n' content
            let ended := lines.map (· ++ ['\n'])
            let ended := if isEnded then ended else ended.dropLast ++ (lines.getLast?).toList
            pure ((partsOf size (ended.length + 1) ended).map List.flatten)
      for (part, index) in parts.zipIdx do
        let digits := Raw.ofNat index
        let name := start ++ if options.has 'd' then
            List.replicate (width - digits.length) '0' ++ digits
          else suffix width index
        match ← openPath name .write with
        | .error error => do
            complainOfFile name error
            throw .failed
        | .ok channel => do
            setChannel inputDescriptor (some channel)
            write inputDescriptor part
      return 0

/-- Give files another size. -/
def truncate : Utility := fun arguments => do
  let options ← optionsOf (table "cor:s:" [("no-create", .none, 'c'), ("io-blocks", .none, 'o'),
    ("reference", .required, 'r'), ("size", .required, 's')]) arguments
  match options.value? 's' with
  | none => misuse "you must specify either '--size' or '--reference'".toList
  | some text => do
      if options.operands.isEmpty then misuse "missing file operand".toList
      let (sign, digits) : Option Char × Raw := match text with
        | c :: rest => if "+-<>/%".toList.contains c then (some c, rest) else (none, text)
        | [] => (none, [])
      let n ← match Quantity.read Quantity.sizeLetters digits with
        | .ok n => pure n
        | .error _ => giveUp ("Invalid number: ".toList ++ Quoting.shown text)
      forOperands options.operands fun path => do
        let before ← match ← entryOf path with
          | .ok (_, .file content _) => pure (some (Raw.ofBytes content))
          | _ => pure none
        if before.isNone && options.has 'c' then return 0
        let content := before.getD []
        let size := match sign with
          | some '+' => content.length + n
          | some '-' => content.length - n
          | some '<' => min content.length n
          | some '>' => max content.length n
          | some '/' => if n = 0 then 0 else content.length / n * n
          | some _ => if n = 0 then 0 else (content.length + n - 1) / n * n
          | none => n
        if textLimit < size then throw .overdue
        match ← openPath path .write with
        | .error error => do
            complainOf ("cannot open ".toList ++ Quoting.betweenQuotes path ++
              " for writing".toList) error
            return 1
        | .ok channel => do
            setChannel inputDescriptor (some channel)
            write inputDescriptor
              (content.take size ++ List.replicate (size - content.length) '\x00')
            return 0

end EditorBridge.Utility.Blocks
