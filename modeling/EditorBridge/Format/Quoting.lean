import EditorBridge.Text.Raw

/-!
# Texts between quotes

How programs show a text so that nobody takes a part of it for something else: in a way that a shell
reads back, or with every character in sight.
-/
namespace EditorBridge.Quoting

/-- Whether a character is seen as itself. -/
def isVisible (c : Char) : Bool := 32 ≤ c.toNat && c.toNat < 127

def escapeLetters : List (Char × Char) :=
  [('\x07', 'a'), ('\x08', 'b'), ('\t', 't'), ('\n', 'n'), ('\x0b', 'v'), ('\x0c', 'f'),
    ('\r', 'r')]

def escaped (c : Char) : Raw :=
  match escapeLetters.lookup c with
  | some letter => ['\\', letter]
  | none =>
      let digits := Nat.toDigits 8 c.toNat
      '\\' :: List.replicate (3 - digits.length) '0' ++ digits

/-- A text between apostrophes, with escapes for what cannot be seen. -/
def shown (text : Raw) : Raw :=
  '\'' :: (text.flatMap fun c =>
    if c = '\'' || c = '\\' then ['\\', c]
    else if isVisible c then [c] else escaped c) ++ ['\'']

/-- Characters that mean something to a shell only as the first of a word. -/
def isLeadingSign (c : Char) : Bool := c = '#' || c = '~'

/-- Characters that never mean anything to a shell. -/
def isPlain (c : Char) : Bool := c.isAlphanum || "%+,-./:@_]".toList.contains c

/-- Whether a shell takes a text for itself. -/
def needsNone (text : Raw) : Bool :=
  match text with
  | [] => false
  | [c] => isPlain c
  | c :: rest =>
      let isHarmless (c : Char) : Bool := isPlain c || c = '\x7b' || c = '\x7d'
      isHarmless c && rest.all fun c => isHarmless c || isLeadingSign c

def suitsDouble (text : Raw) : Bool :=
  let isHarmless (c : Char) : Bool := isPlain c || c = ' ' || c = '\''
  match text with
  | [] => true
  | c :: rest => (isHarmless c || isLeadingSign c) && rest.all isHarmless

/-- The inside of a text between apostrophes: escapes stand between apostrophes of their own, after
a dollar sign. -/
def apostrophized (inEscapes : Bool) : Raw → Raw
  | [] => []
  | c :: rest =>
      if !isVisible c then
        (if inEscapes then [] else "'$'".toList) ++ escaped c ++ apostrophized true rest
      else
        (if inEscapes then "''".toList else []) ++
          (if c = '\'' then "'\\''".toList else [c]) ++ apostrophized false rest

/-- A text between quotes, as a shell reads it back. -/
def betweenQuotes (text : Raw) : Raw :=
  if text.contains '\'' && suitsDouble text then '"' :: text ++ ['"']
  else '\'' :: apostrophized false text ++ ['\'']

/-- A text as a shell reads it back, with quotes only where they are needed. -/
def forShell (text : Raw) : Raw := if needsNone text then text else betweenQuotes text

/-- A name in front of a colon, with quotes where they are needed. -/
def name (text : Raw) : Raw :=
  if needsNone text && !text.contains ':' then text else betweenQuotes text

end EditorBridge.Quoting
