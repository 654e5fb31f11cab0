import EditorBridge.Text.Raw

/-!
# Patterns

A pattern is matched against a whole text: a question mark stands for any character, an asterisk for
any number of them, and brackets for one character of a set.  Quoted characters stand for
themselves, and so does the character after a backslash.

What a text without quotes matches exactly is the text itself; brackets that are not closed are such
a text, too.
-/
namespace EditorBridge.Shell

abbrev Marked := List (Char × Bool)

inductive Member where
  | between (first last : Char)
  | class (name : String)
  deriving DecidableEq, Repr

inductive Piece where
  | exactly (c : Char)
  | any
  | many
  /-- One character of a set, or one that is not in it. -/
  | oneOf (negated : Bool) (members : List Member)
  deriving DecidableEq, Repr

namespace Member

def isOfClass (name : String) (c : Char) : Bool :=
  match name with
  | "alnum" => c.isAlphanum
  | "alpha" => c.isAlpha
  | "blank" => c = ' ' || c = '\t'
  | "cntrl" => c.toNat < 32 || c.toNat = 127
  | "digit" => c.isDigit
  | "graph" => 32 < c.toNat && c.toNat < 127
  | "lower" => c.isLower
  | "print" => 32 ≤ c.toNat && c.toNat < 127
  | "punct" => 32 < c.toNat && c.toNat < 127 && !c.isAlphanum
  | "space" => " \t\n\x0b\x0c\r".toList.contains c
  | "upper" => c.isUpper
  | "xdigit" => c.isDigit || ('a' ≤ c && c ≤ 'f') || ('A' ≤ c && c ≤ 'F')
  | _ => false

def classes : List String :=
  ["alnum", "alpha", "blank", "cntrl", "digit", "graph", "lower", "print", "punct", "space",
    "upper", "xdigit"]

def admits (c : Char) : Member → Bool
  | between first last => first.toNat ≤ c.toNat && c.toNat ≤ last.toNat
  | «class» name => isOfClass name c

/-- The class that a text names, after a bracket and a colon, and what comes after it. -/
def class? (text : Marked) : Option (String × Marked) :=
  classes.findSome? fun name =>
    let whole := ":".toList ++ name.toList ++ ":]".toList
    if (text.take whole.length).map (·.1) = whole then some (name, text.drop whole.length) else none

/-- The first character of a text, which a backslash may come before, and the rest. -/
def character? : Marked → Option (Char × Marked)
  | ('\\', false) :: (c, _) :: rest => some (c, rest)
  | (c, _) :: rest => some (c, rest)
  | [] => none

/-- The members of a set up to its closing bracket, and what comes after; the first member may be a
bracket. -/
def set? : Nat → Bool → Marked → Option (List Member × Marked)
  | 0, _, _ => none
  | fuel + 1, isFirst, text =>
      match text with
      | [] => none
      | (c, quoted) :: rest =>
          if c = ']' && !quoted && !isFirst then some ([], rest)
          else
            let named := if c = '[' && !quoted then class? rest else none
            match named with
            | some (name, rest) =>
                (set? fuel false rest).map fun (more, after) => («class» name :: more, after)
            | none => do
                let (first, rest) ← character? text
                match rest with
                | ('-', false) :: next =>
                    if next.head? = some (']', false) then do
                      let (more, after) ← set? fuel false rest
                      return (between first first :: more, after)
                    else do
                      let (last, rest) ← character? next
                      let (more, after) ← set? fuel false rest
                      return (between first last :: more, after)
                | rest => do
                    let (more, after) ← set? fuel false rest
                    return (between first first :: more, after)

end Member

namespace Piece

def ofMarked : Nat → Marked → List Piece
  | 0, _ => []
  | _, [] => []
  | fuel + 1, (c, true) :: rest => exactly c :: ofMarked fuel rest
  | fuel + 1, (c, false) :: rest =>
      match c with
      | '?' => any :: ofMarked fuel rest
      | '*' => many :: ofMarked fuel rest
      | '\\' =>
          match rest with
          | (d, _) :: rest => exactly d :: ofMarked fuel rest
          | [] => [exactly '\\']
      | '[' =>
          let (negated, set) := match rest with
            | ('!', false) :: set => (true, set)
            | set => (false, set)
          match Member.set? (set.length + 1) true set with
          | some (members, after) => oneOf negated members :: ofMarked fuel after
          | none => exactly c :: ofMarked fuel rest
      | c => exactly c :: ofMarked fuel rest

def admits (piece : Piece) (c : Char) : Bool :=
  match piece with
  | exactly d => c = d
  | any => true
  | many => false
  | oneOf negated members => (members.any (·.admits c)) != negated

/-- What is left of a text after some character of it, or nothing of it, has been passed over. -/
def tails (text : Raw) : List Raw :=
  (List.range (text.length + 1)).map text.drop

/-- The places in a text up to which pieces can match, as what is left there. -/
def rests (pieces : List Piece) (text : Raw) : List Raw :=
  pieces.foldl
    (fun ends piece => match piece with
      | many =>
          match ends with
          | [] => []
          | first :: more =>
              tails (more.foldl (fun a b => if a.length < b.length then b else a) first)
      | piece => ends.filterMap fun rest => match rest with
          | c :: rest => if piece.admits c then some rest else none
          | [] => none)
    [text]

def matchAll (pieces : List Piece) (text : Raw) : Bool :=
  (rests pieces text).any (·.isEmpty)

end Piece

def pattern (marked : Marked) : List Piece := Piece.ofMarked (marked.length + 1) marked

end EditorBridge.Shell
