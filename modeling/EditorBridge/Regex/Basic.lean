import EditorBridge.Text.Raw

/-!
# Regular expressions

What a regular expression matches from a place in a text on: all the places at which a match may
end.  The longest match counts.  Of several ways to the same place the one counts that comes first
when alternatives are tried in their order, and repetitions as often as possible.
-/
namespace EditorBridge.Regex

/-- Conditions on a place between characters. -/
inductive Border where
  | lineStart
  | lineEnd
  | textStart
  | textEnd
  | wordStart
  | wordEnd
  /-- The start or the end of a word. -/
  | wordBorder
  /-- Neither the start nor the end of a word. -/
  | noBorder
  deriving DecidableEq, Repr

inductive Expression where
  | nothing
  /-- A character of a set. -/
  | one (admits : Char → Bool)
  | border (kind : Border)
  | both (first second : Expression)
  | either (first second : Expression)
  /-- So often at least, and at most if there is a limit. -/
  | repeated (body : Expression) (least : Nat) (most : Option Nat)
  | group (index : Nat) (body : Expression)
  /-- The text of a group once more. -/
  | again (index : Nat)

/-- A part of a text: what there is from its start on, and how much of that it takes. -/
structure Part where
  rest : Raw
  length : Nat
  deriving DecidableEq, Repr

def Part.text (part : Part) : Raw := part.rest.take part.length

/-- A place in a text, with the groups found on the way to it. -/
structure Place where
  index : Nat
  previous : Option Char
  rest : Raw
  groups : List (Nat × Part)
  deriving DecidableEq, Repr

namespace Place

def start (text : Raw) : Place := ⟨0, none, text, []⟩

/-- The next place, if a character of a set comes before it. -/
def next? (admits : Char → Bool) (place : Place) : Option Place :=
  match place.rest with
  | c :: rest =>
      if admits c then some { place with index := place.index + 1, previous := some c, rest }
      else none
  | [] => none

/-- The place after so many characters. -/
def skip (count : Nat) (place : Place) : Place :=
  match count with
  | 0 => place
  | n + 1 =>
      { place with
        index := place.index + count
        previous := (place.rest.drop n).head?
        rest := place.rest.drop count }

/-- A place with the text since an earlier one as a group. -/
def grouped (index : Nat) (earlier place : Place) : Place :=
  { place with
    groups := (index, ⟨earlier.rest, place.index - earlier.index⟩) ::
      place.groups.filter (·.1 ≠ index) }

def isWord (c : Char) : Bool := c.isAlphanum || c = '_'

/-- Whether a condition holds at a place, lines being looked at or the text only. -/
def admits (ofLines : Bool) (place : Place) : Border → Bool
  | .lineStart => place.previous.isNone || (ofLines && place.previous = some '\n')
  | .lineEnd => place.rest.isEmpty || (ofLines && place.rest.head? = some '\n')
  | .textStart => place.previous.isNone
  | .textEnd => place.rest.isEmpty
  | .wordStart => !place.previous.any isWord && place.rest.head?.any isWord
  | .wordEnd => place.previous.any isWord && !place.rest.head?.any isWord
  | .wordBorder => place.previous.any isWord ≠ place.rest.head?.any isWord
  | .noBorder => place.previous.any isWord = place.rest.head?.any isWord

/-- Whether each place comes before the one that stands in front of it. -/
def isDescending : List Place → Bool
  | first :: second :: rest => second.index < first.index && isDescending (second :: rest)
  | _ => true

/-- Numbered places without those that have an equal index as one before them. -/
def withoutEqual : List (Place × Nat) → List (Place × Nat)
  | first :: second :: rest =>
      if first.1.index = second.1.index then withoutEqual (first :: rest)
      else first :: withoutEqual (second :: rest)
  | places => places
termination_by places => places.length

/-- Places in their order, each only once; places with other groups are others only if that is to
count. -/
def distinct (exact : Bool) (places : List Place) : List Place :=
  if isDescending places then places
  else if exact then places.eraseDups
  else
    let sorted := places.zipIdx.mergeSort fun a b => a.1.index ≤ b.1.index
    ((withoutEqual sorted).mergeSort fun a b => a.2 ≤ b.2).map (·.1)

def isAmong (exact : Bool) (place : Place) (places : List Place) : Bool :=
  places.any fun other => other.index = place.index && (!exact || other = place)

/-- The places to which steps of a kind lead, one after another, those with more steps first.  A
place waits to be gone on from, or to be taken up itself. -/
def closure (step : Place → List Place) (exact : Bool) :
    Nat → List Place → List Place → List (Place × Bool) → List Place
  | 0, _, taken, _ => taken.reverse
  | _, _, taken, [] => taken.reverse
  | fuel + 1, seen, taken, (place, true) :: others =>
      closure step exact fuel seen (place :: taken) others
  | fuel + 1, seen, taken, (place, false) :: others =>
      if isAmong exact place seen then closure step exact fuel seen taken others
      else
        let further := (step place).filter fun next => next.index ≠ place.index
        closure step exact fuel (place :: seen) taken
          (further.map (fun next => (next, false)) ++ (place, true) :: others)

def after (step : Place → List Place) (exact : Bool) : Nat → List Place → List Place
  | 0, places => places
  | n + 1, places => after step exact n (distinct exact (places.flatMap step))

/-- The places to which so many steps or fewer lead, those with more steps first. -/
def within (step : Place → List Place) (exact : Bool) : Nat → Place → List Place
  | 0, place => [place]
  | n + 1, place =>
      let further := (step place).filter fun next => next.index ≠ place.index
      distinct exact (further.flatMap (within step exact n) ++ [place])

def runs (admits : Char → Bool) (least : Nat) (most : Option Nat) (place : Place) : List Place :=
  let rec lengthOf : Nat → Raw → Nat
    | n, c :: rest => if admits c then lengthOf (n + 1) rest else n
    | n, [] => n
  let length := lengthOf 0 (match most with
    | some most => place.rest.take most
    | none => place.rest)
  let rec extend : Nat → Place → List Place → List Place
    | 0, _, found => found
    | n + 1, place, found =>
        match place.next? admits with
        | some next => extend n next (next :: found)
        | none => found
  if length < least then []
  else
    let first := place.skip least
    extend (length - least) first [first]

/-- The farthest of some places, and of several the first one. -/
def farthest? (places : List Place) : Option Place :=
  places.foldl (fun best place => match best with
    | none => some place
    | some other => if other.index < place.index then some place else best) none

end Place

structure Manner where
  /-- Whether lines within a text have starts and ends. -/
  ofLines : Bool
  /-- Whether small and great letters are the same. -/
  ignoresCase : Bool
  deriving DecidableEq, Repr

namespace Expression

/-- Whether a group is matched once more anywhere. -/
def refersBack : Expression → Bool
  | again _ => true
  | both a b | either a b => a.refersBack || b.refersBack
  | repeated body _ _ | group _ body => body.refersBack
  | _ => false

def set? : Expression → Option (Char → Bool)
  | one admits => some admits
  | _ => none

/-- The places at which a match from a place on may end, in the order in which they are tried. -/
def ends (manner : Manner) (exact : Bool) : Expression → Place → List Place
  | nothing, place => [place]
  | one admits, place => (place.next? admits).toList
  | border kind, place => if place.admits manner.ofLines kind then [place] else []
  | both first second, place =>
      Place.distinct exact ((first.ends manner exact place).flatMap (second.ends manner exact))
  | either first second, place =>
      Place.distinct exact (first.ends manner exact place ++ second.ends manner exact place)
  | repeated body least most, place =>
      match body.set? with
      | some admits => place.runs admits least most
      | none =>
          let step := body.ends manner exact
          let places := Place.after step exact least [place]
          match most with
          | some most =>
              Place.distinct exact (places.flatMap (Place.within step exact (most - least)))
          | none =>
              let size := place.rest.length + 2
              Place.closure step exact (2 * size * size) [] []
                (places.map fun place => (place, false))
  | group index body, place => (body.ends manner exact place).map (Place.grouped index place)
  | again index, place =>
      match place.groups.lookup index with
      | none => []
      | some part =>
          let same (a b : Raw) : Bool :=
            if manner.ignoresCase then a.map Char.toLower = b.map Char.toLower else a = b
          if same part.text (place.rest.take part.length) then [place.skip part.length] else []

end Expression

end EditorBridge.Regex

namespace EditorBridge

/-- A regular expression that has been read, with the number of its groups. -/
structure Regex where
  expression : Regex.Expression
  manner : Regex.Manner
  groups : Nat

namespace Regex

/-- What has been matched: the place where the match starts, and the place where it ends. -/
structure Found where
  start : Place
  finish : Place
  deriving Repr

namespace Found

def text (found : Found) : Raw := found.start.rest.take (found.finish.index - found.start.index)

/-- The text of a group, the whole match being number zero. -/
def group (found : Found) (index : Nat) : Raw :=
  if index = 0 then found.text else ((found.finish.groups.lookup index).map Part.text).getD []

end Found

/-- The longest match that starts at a place, of those whose ends are accepted. -/
def matchAt? (regex : Regex) (accepts : Place → Place → Bool) (place : Place) : Option Found :=
  let place := { place with groups := [] }
  let ends := regex.expression.ends regex.manner regex.expression.refersBack place
  (Place.farthest? (ends.filter (accepts place))).map fun finish => ⟨place, finish⟩

/-- The first match from a place on whose ends are accepted, of those that start there the longest
one; it is known what comes after the place. -/
def searchAlong (regex : Regex) (accepts : Place → Place → Bool) : Raw → Place → Option Found
  | [], place => regex.matchAt? accepts place
  | c :: rest, place =>
      match regex.matchAt? accepts place with
      | some found => some found
      | none =>
          searchAlong regex accepts rest
            { place with index := place.index + 1, previous := some c, rest }

/-- The first match from a place on whose ends are accepted. -/
def searchFor? (regex : Regex) (accepts : Place → Place → Bool) (place : Place) : Option Found :=
  regex.searchAlong accepts place.rest place

def search? (regex : Regex) (place : Place) : Option Found :=
  regex.searchFor? (fun _ _ => true) place

def occursIn (regex : Regex) (text : Raw) : Bool := (regex.search? (.start text)).isSome

end Regex

end EditorBridge
