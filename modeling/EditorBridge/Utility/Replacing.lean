import EditorBridge.Format.Escape
import EditorBridge.Utility.Basic

/-!
# Replacing characters

Two sets of characters say what becomes of what: characters are replaced, deleted, or squeezed.
-/
namespace EditorBridge.Utility.Replacing

open Host Act

/-- A character of a set as it was written: whether it was escaped. -/
abbrev Sign := Char × Bool

/-- The signs that a text is, with escapes taken for what they mean. -/
def signsOf : Nat → Raw → List Sign
  | 0, text => text.map fun c => (c, false)
  | _, [] => []
  | _, ['\\'] => [('\\', false)]
  | fuel + 1, '\\' :: c :: rest =>
      match Format.digits? Format.octal? 8 3 (c :: rest) with
      | some (n, after) =>
          if n < 256 then (Char.ofNat n, true) :: signsOf fuel after
          else
            let digits := (c :: rest).take 2
            let value := digits.foldl (fun n c => n * 8 + (Format.octal? c).getD 0) 0
            (Char.ofNat value, true) :: signsOf fuel ((c :: rest).drop 2)
      | none =>
          match c with
          | '\\' => ('\\', true) :: signsOf fuel rest
          | c =>
              let meant := if c = 'e' then c else (Format.letters.lookup c).getD c
              (meant, true) :: signsOf fuel rest
  | fuel + 1, c :: rest => (c, false) :: signsOf fuel rest

inductive Item where
  | character (c : Char)
  | range (first last : Char)
  | named (name : Raw)
  | equivalent (c : Char)
  /-- A character so many times; none at all means as often as needed. -/
  | repeated (c : Char) (count : Nat)
  deriving DecidableEq, Repr

def isBare (c : Char) (sign : Sign) : Bool := sign.1 = c && !sign.2

def kinds : List (String × (Char → Bool)) :=
  [("alnum", Char.isAlphanum), ("alpha", Char.isAlpha),
    ("blank", fun c => c = ' ' || c = '\t'),
    ("cntrl", fun c => c.toNat < 32 || c.toNat = 127), ("digit", Char.isDigit),
    ("graph", fun c => 32 < c.toNat && c.toNat < 127), ("lower", Char.isLower),
    ("print", fun c => 32 ≤ c.toNat && c.toNat < 127),
    ("punct", fun c => 32 < c.toNat && c.toNat < 127 && !c.isAlphanum),
    ("space", fun c => c = ' ' || (9 ≤ c.toNat && c.toNat ≤ 13)), ("upper", Char.isUpper),
    ("xdigit", fun c => c.isDigit || ('a' ≤ c && c ≤ 'f') || ('A' ≤ c && c ≤ 'F'))]

def kind? (name : Raw) : Option (Char → Bool) :=
  (kinds.find? fun kind => kind.1.toList = name).map (·.2)

def everyCharacter : List Char := (List.range 256).map Char.ofNat

/-- The text before a mark and a closing bracket, and what comes after them. -/
def closed? (mark : Char) : List Sign → Option (List Sign × List Sign)
  | a :: b :: rest =>
      if isBare mark a && isBare ']' b then some ([], rest)
      else (closed? mark (b :: rest)).map fun (inside, after) => (a :: inside, after)
  | _ => none

inductive Problem where
  | message (text : Raw)

/-- The repetition after an opening bracket. -/
def repetition? (signs : List Sign) : Except Problem (Option (Item × List Sign)) :=
  match signs with
  | (c, _) :: star :: rest =>
      if !isBare '*' star then .ok none
      else
        let inside := rest.takeWhile fun sign => !sign.2 && sign.1 ≠ ']'
        match rest.drop inside.length with
        | (']', false) :: after =>
            let digits := inside.map (·.1)
            let base := if digits.head? = some '0' then 8 else 10
            let isDigit (c : Char) : Bool := c.isDigit && c.toNat - '0'.toNat < base
            if digits = [] then .ok (some (.repeated c 0, after))
            else if digits.all isDigit then
              let n := digits.foldl (fun n c => n * base + (c.toNat - '0'.toNat)) 0
              .ok (some (.repeated c n, after))
            else .error (.message ("invalid repeat count ".toList ++ Quoting.shown digits ++
              " in [c*n] construct".toList))
        | _ => .ok none
  | _ => .ok none

/-- Whether a repetition of a mark closes the bracket: a star, digits and a closing bracket. -/
def isStarred : List Sign → Bool
  | star :: rest =>
      isBare '*' star &&
        ((rest.dropWhile fun sign => sign.1.isDigit && !sign.2).head?.any (isBare ']'))
  | [] => false

def shownCharacter (c : Char) : Raw :=
  if Quoting.isVisible c then [c]
  else
    let digits := Nat.toDigits 8 c.toNat
    '\\' :: List.replicate (3 - digits.length) '0' ++ digits

/-- The items of a set; the fuel exceeds the number of signs. -/
def itemsOf : Nat → List Sign → Except Problem (List Item)
  | 0, signs => .ok (signs.map fun sign => .character sign.1)
  | _, [] => .ok []
  | _, [a] => .ok [.character a.1]
  | _, [a, b] => .ok [.character a.1, .character b.1]
  | fuel + 1, a :: b :: c :: rest => do
      let all := b :: c :: rest
      let plainly : Except Problem (List Item) := do
        if isBare '-' b then
          if c.1.toNat < a.1.toNat then
            throw (.message ("range-endpoints of '".toList ++ shownCharacter a.1 ++
              '-' :: shownCharacter c.1 ++ "' are in reverse collating sequence order".toList))
          return .range a.1 c.1 :: (← itemsOf fuel rest)
        else return .character a.1 :: (← itemsOf fuel all)
      let repeatedOrPlainly : Except Problem (List Item) := do
        if !isBare '[' a then plainly
        else match ← repetition? all with
          | some (item, after) => return item :: (← itemsOf fuel after)
          | none => plainly
      if !isBare '[' a then plainly
      else if isBare ':' b then
        match closed? ':' (c :: rest) with
        | none => repeatedOrPlainly
        | some (inside, after) =>
            let name := inside.map (·.1)
            if name = [] then throw (.message "missing character class name '[::]'".toList)
            else if (kind? name).isSome then return .named name :: (← itemsOf fuel after)
            else if isStarred (c :: rest) then repeatedOrPlainly
            else throw (.message ("invalid character class ".toList ++ Quoting.shown name))
      else if isBare '=' b then
        match closed? '=' (c :: rest) with
        | none => repeatedOrPlainly
        | some (inside, after) =>
            match inside with
            | [] => throw (.message "missing equivalence class character '[==]'".toList)
            | [sign] => return .equivalent sign.1 :: (← itemsOf fuel after)
            | inside =>
                if isStarred (c :: rest) then repeatedOrPlainly
                else throw (.message (inside.map (·.1) ++
                  ": equivalence class operand must be a single character".toList))
      else repeatedOrPlainly

/-- The characters of an item, one that is repeated as needed being given a length. -/
def Item.characters (needed : Nat) : Item → List Char
  | character c | equivalent c => [c]
  | range first last => everyCharacter.filter fun c => first.toNat ≤ c.toNat && c.toNat ≤ last.toNat
  | named name => everyCharacter.filter ((kind? name).getD fun _ => false)
  | repeated c count => List.replicate (if count = 0 then needed else count) c

def charactersOf (needed : Nat) (items : List Item) : List Char :=
  items.flatMap (Item.characters needed)

/-- Whether an item is repeated as often as needed. -/
def Item.isFilling : Item → Bool
  | repeated _ count => count = 0
  | _ => false

/-- Whether an item is one of the two kinds of letters. -/
def Item.isCase : Item → Bool
  | named name => name = "lower".toList || name = "upper".toList
  | _ => false

/-- Where the items of the two kinds of letters begin. -/
def casePlaces (start : Nat) : List Item → List Nat
  | [] => []
  | item :: rest =>
      (if item.isCase then [start] else []) ++
        casePlaces (start + (item.characters 0).length) rest

/-- What is done with characters, by their numbers. -/
structure Mapping where
  deleted : Array Bool
  replaced : Array Char
  squeezed : Array Bool

/-- What a text becomes after a character that has been written. -/
def Mapping.apply (mapping : Mapping) (before : Option Char) (text : Raw) :
    Raw × Option Char :=
  let (written, last) := text.foldl
    (fun (written, last) c =>
      if mapping.deleted.getD c.toNat false then (written, last)
      else
        let c := mapping.replaced.getD c.toNat c
        if last = some c && mapping.squeezed.getD c.toNat false then (written, last)
        else (c :: written, some c)) (([] : Raw), before)
  (written.reverse, last)

/-- The items of a set; give up if it is none. -/
def readSet (text : Raw) : Act (List Item) := do
  if (text.reverse.takeWhile (· = '\\')).length % 2 = 1 then
    complain "warning: an unescaped backslash at end of string is not portable".toList
  let signs := signsOf (text.length + 1) text
  match itemsOf (signs.length + 1) signs with
  | .ok items => return items
  | .error (.message message) => giveUp message

def replacement (set1 set2 : List Char) (c : Char) : Char :=
  match ((set1.zip set2).filter fun pair => pair.1 = c).getLast? with
  | some (_, replaced) => replaced
  | none => c

/-- The values of a function on characters, by the numbers of those. -/
def tabulated {α : Type} (f : Char → α) : Array α := (everyCharacter.map f).toArray

/-- Replace, squeeze or delete characters. -/
def tr : Utility := fun arguments => do
  let options ← optionsOf (leadingTable "AcCdst"
    [("complement", .none, 'c'), ("delete", .none, 'd'), ("squeeze-repeats", .none, 's'),
      ("truncate-set1", .none, 't')]) arguments
  let deletes := options.has 'd'
  let squeezes := options.has 's'
  let complements := options.has 'c' || options.has 'C'
  let least := if deletes = squeezes then 2 else 1
  let most := if deletes && !squeezes then 1 else 2
  let count := options.operands.length
  if count < least then
    match options.operands.getLast? with
    | none => misuse "missing operand".toList
    | some last => do
        complain ("missing operand after ".toList ++ Quoting.shown last)
        write 2 ((if squeezes then
          "Two strings must be given when both deleting and squeezing repeats.\n"
          else "Two strings must be given when translating.\n").toList)
        giveUpHelpfully
  if most < count then
    complain ("extra operand ".toList ++ Quoting.shown ((options.operands[most]?).getD []))
    if count = 2 then
      write 2 "Only one string may be given when deleting without squeezing repeats.\n".toList
    giveUpHelpfully
  let replaces := count = 2 && !deletes
  let items1 ← readSet (options.operands.headD [])
  let items2 ← match options.operands with
    | [_, text] => readSet text
    | _ => pure []
  let isNamed (item : Item) : Bool := match item with
    | .named _ => true
    | _ => false
  if items1.any Item.isFilling then
    giveUp "the [c*] repeat construct may not appear in string1".toList
  if 1 < (items2.filter Item.isFilling).length then
    giveUp "only one [c*] repeat construct may appear in string2".toList
  let plain1 := charactersOf 0 items1
  let set1 := if complements then everyCharacter.filter fun c => !plain1.contains c else plain1
  let fixed2 := (charactersOf 0 items2).length
  let set2 := charactersOf (set1.length - fixed2) items2
  let mut replaced : Array Char := #[]
  if replaces then
    if items2.any fun item => match item with
        | .equivalent _ => true
        | _ => false then
      giveUp "[=c=] expressions may not appear in string2 when translating".toList
    if items2.any fun item => isNamed item && !item.isCase then
      giveUp ("when translating, the only character classes that may appear in\nstring2 are " ++
        "'upper' and 'lower'").toList
    let places1 := casePlaces 0 items1
    if (casePlaces 0 items2).any fun place => !places1.contains place then
      giveUp "misaligned [:upper:] and/or [:lower:] construct".toList
    if set2 = [] && !options.has 't' then
      giveUp "when not truncating set1, string2 must be non-empty".toList
    let isOne := match set2 with
      | [] => true
      | c :: rest => rest.all (· = c)
    if complements && items1.any isNamed && !(isOne && set1.length ≤ set2.length || isOne) then
      giveUp ("when translating with complemented character classes,\nstring2 must map all " ++
        "characters in the domain to one").toList
    let padded := if options.has 't' then set2
      else set2 ++ List.replicate (set1.length - set2.length) (set2.getLastD ' ')
    replaced := tabulated (replacement set1 padded)
  else
    if items2.any Item.isFilling then
      giveUp "the [c*] construct may appear in string2 only when translating".toList
  let squeezed := if count = 2 then set2 else set1
  let mapping : Mapping :=
    ⟨tabulated fun c => deletes && set1.contains c, replaced,
      tabulated fun c => squeezes && squeezed.contains c⟩
  let action (before : Option Char) (piece : Raw) : Act (Option Char × Bool) := do
    let (written, last) := mapping.apply before piece
    put written
    return (last, true)
  match (← foldInput 0 action roundLimit none).2 with
  | .ok () => return 0
  | .error error => do
      complainOf "read error".toList error
      return 1

end EditorBridge.Utility.Replacing
