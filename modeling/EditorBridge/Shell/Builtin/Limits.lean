import EditorBridge.Shell.Builtin.Basic

/-!
# Limits of resources

They are known and can be set, but nothing here comes near them.
-/
namespace EditorBridge.Shell.Builtin

open Host Act

/-- A limit: its letter, its name, and its value at the start; nothing stands for no limit. -/
structure Limit where
  letter : Char
  name : String
  value : Option Nat

def knownLimits : List Limit :=
  [⟨'t', "time(seconds)", none⟩, ⟨'f', "file(blocks)", none⟩, ⟨'d', "data(kbytes)", none⟩,
    ⟨'s', "stack(kbytes)", some 8192⟩, ⟨'c', "coredump(blocks)", none⟩,
    ⟨'m', "memory(kbytes)", none⟩, ⟨'l', "locked memory(kbytes)", some 8192⟩,
    ⟨'p', "process", none⟩, ⟨'n', "nofiles", some 1048576⟩, ⟨'v', "vmemory(kbytes)", none⟩,
    ⟨'w', "locks", none⟩, ⟨'r', "rtprio", some 0⟩]

/-- Show a limit, after its name if others are shown as well. -/
def showLimit (withName : Bool) (limit : Limit) : Act Unit := do
  let value := ((← task).limits.lookup limit.letter).getD limit.value
  let name := limit.name.toList
  let before := if withName then name ++ List.replicate (20 - name.length) ' ' ++ [' '] else []
  sayLine (before ++ (match value with
    | some n => Raw.ofNat n
    | none => "unlimited".toList))

def setLimit (letter : Char) (text : Raw) : Act Unit := do
  let value ← if text = "unlimited".toList then pure none
    else match Raw.nat? (if text = [] then ['0'] else text) with
      | some n => pure (some n)
      | none => Shell.fail "bad number".toList
  modifyTask fun task =>
    { task with limits := (letter, value) :: task.limits.filter (·.1 ≠ letter) }

def ulimit : Builtin := fun arguments => do
  let letters := 'H' :: 'S' :: 'a' :: knownLimits.map (·.letter)
  let (found, arguments) ← takeOptions (letters.map fun letter => (letter, false)) arguments
  let all := found.any (·.1 = 'a')
  let chosen := (found.filter fun option => !"HSa".toList.contains option.1).getLast?
  let letter := (chosen.map (·.1)).getD 'f'
  match arguments with
  | [] => do
      for limit in knownLimits do
        if all || limit.letter = letter then showLimit all limit
      return 0
  | value :: rest => do
      if all || !rest.isEmpty then Shell.fail "too many arguments".toList
      setLimit letter value
      return 0

end EditorBridge.Shell.Builtin
