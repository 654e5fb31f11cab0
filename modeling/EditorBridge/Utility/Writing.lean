import EditorBridge.Format.Printing
import EditorBridge.Utility.Basic

/-!
# Programs that only write

What they write depends on their arguments alone.
-/
namespace EditorBridge.Utility

open Host Act

def succeed : Utility := fun _ => return 0

def fail : Utility := fun _ => return 1

/-- Write the arguments, separated by blanks.  Options say whether the line is ended and whether
escapes are interpreted. -/
def echo : Utility := fun arguments => do
  let isOption (argument : Raw) : Bool := match argument with
    | '-' :: letter :: letters => (letter :: letters).all fun c => "neE".toList.contains c
    | _ => false
  let letters := ((arguments.takeWhile isOption).map (·.drop 1)).flatten
  let text := Raw.join [' '] (arguments.dropWhile isOption)
  let interpreting := (letters.filter (· ≠ 'n')).getLast? = some 'e'
  let ending : Raw := if letters.contains 'n' then [] else ['\n']
  if interpreting then
    let interpreted := Format.interpret .program .echo text
    put (if interpreted.goesOn then interpreted.text ++ ending else interpreted.text)
  else put (text ++ ending)
  return 0

def printf : Utility := fun arguments => do
  match (if arguments.head? = some ['-', '-'] then arguments.drop 1 else arguments) with
  | [] => missingOperand []
  | format :: arguments => do
      let outcome := Format.print .program format arguments
      for printed in outcome.printed do
        match printed with
        | .text raw => put raw
        | .complaint raw => complain raw
      match outcome.fault with
      | some complaint => giveUp complaint
      | none => return if outcome.good then 0 else 1

/-- How much is written at a time when there is no end to it. -/
def blockOf (line : Raw) : Raw :=
  (List.replicate (max 1 (8192 / max 1 line.length)) line).flatten

/-- Write a line without end. -/
def yes : Utility := fun arguments => do
  let words := (← optionsOf (leadingTable "" []) arguments).operands
  let line := if words.isEmpty then "y\n".toList else Raw.join [' '] words ++ ['\n']
  let block := blockOf line
  repeatWhile (do
    labourFor block
    match ← writeTo 1 block with
    | .ok () => return true
    | .error error => do
        complainOf "standard output".toList error
        throw .failed) roundLimit
  return 0

end EditorBridge.Utility
