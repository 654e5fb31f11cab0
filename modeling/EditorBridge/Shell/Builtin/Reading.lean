import EditorBridge.Shell.Builtin.Naming
import EditorBridge.Shell.Fields

/-!
# Reading into variables

A line is read byte by byte, so that what comes after it stays where it is.  It is split like an
expanded word, except that the last variable gets all that is left.
-/
namespace EditorBridge.Shell.Builtin

open Host Act

/-- A line, its characters with a mark whether a backslash came before them; and whether it ended
before the input did. -/
def readMarkedLine (plainly : Bool) : Nat → Bool → List (Char × Bool) →
    Act (List (Char × Bool) × Bool)
  | 0, _, _ => throw .overdue
  | rounds + 1, escaped, line => do
      labour
      match ← readFrom 0 1 with
      | .ok [c] =>
          if c = '\x00' then readMarkedLine plainly rounds escaped line
          else if escaped then
            readMarkedLine plainly rounds false (if c = '\n' then line else (c, true) :: line)
          else if c = '\\' && !plainly then readMarkedLine plainly rounds true line
          else if c = '\n' then return (line.reverse, true)
          else readMarkedLine plainly rounds false ((c, false) :: line)
      | _ => return (line.reverse, false)

/-- A line that is being split: the fields that have ended, the latest first; the field that has
begun, its last character first; how many fields may still end before the last one; and from where
on the last one may have to be cut. -/
structure LineSplitting where
  ended : List Raw
  begun : Raw
  left : Nat
  cut : Option Nat

namespace LineSplitting

def add (splitting : LineSplitting) (c : Char) : LineSplitting :=
  { splitting with begun := c :: splitting.begun }

/-- Take in characters.  Only those without a backslash separate; after a separator further blanks
are passed over, and one separator that is no blank if only blanks came before. -/
def take (separators : Raw) (splitting : LineSplitting) (skipping blank : Bool) :
    List (Char × Bool) → LineSplitting
  | [] => splitting
  | (c, true) :: rest => take separators (splitting.add c) false false rest
  | (c, false) :: rest =>
      let separates := separators.contains c
      let isBlank := separates && Splitting.isBlank (.char c false)
      if skipping && separates && (isBlank || blank) then
        take separators splitting true (blank && isBlank) rest
      else if splitting.left = 0 then
        if isBlank then
          let cut := splitting.cut.getD splitting.begun.length
          take separators { splitting.add c with cut := some cut } false blank rest
        else
          let cut := if separates && blank then splitting.cut else none
          take separators { splitting.add c with cut } false false rest
      else if !separates then take separators (splitting.add c) false false rest
      else if isBlank && splitting.begun = [] then take separators splitting false false rest
      else if splitting.left = 1 then
        take separators
          { splitting.add c with left := 0, cut := some splitting.begun.length } false isBlank rest
      else
        take separators
          ⟨splitting.begun.reverse :: splitting.ended, [], splitting.left - 1, none⟩ true isBlank
          rest

end LineSplitting

def lineFields (separators : Raw) (count : Nat) (line : List (Char × Bool)) : List Raw :=
  let splitting := LineSplitting.take separators ⟨[], [], count, none⟩ false false line
  let last := match splitting.cut with
    | some n => splitting.begun.reverse.take n
    | none => splitting.begun.reverse
  (if last = [] then splitting.ended else last :: splitting.ended).reverse

def read : Builtin := fun arguments => do
  let (found, names) ← takeOptions [('p', true), ('r', false)] arguments
  if names.isEmpty then Shell.fail "arg count".toList
  let plainly := found.any (·.1 = 'r')
  let (line, ended) ← readMarkedLine plainly roundLimit false []
  let fields := lineFields (← memory).separators names.length line
  for (argument, index) in names.zipIdx do
    let (name, _) ← assignmentIn argument
    setVariable name (fields[index]?.getD [])
  return ofBool ended

end EditorBridge.Shell.Builtin
