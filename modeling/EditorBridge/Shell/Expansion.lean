import EditorBridge.Shell.Fields
import EditorBridge.Shell.Variables

/-!
# Expansion

What words stand for: parameters with what is done to them, the output of commands, arithmetic, home
directories.  The result is a row of stretches, which knows what may be separated and what was
quoted.
-/
namespace EditorBridge.Shell

open Host Act

/-- Let another shell carry out a command, its descriptors leading where a table says. -/
def forkShell (prepare : Task → Task) (table : List (Nat × Channel)) (body : Command)
    (isTested : Bool) : Act Nat :=
  fork (fun task => prepare { task with memory := task.memory.forSubshell }) table
    (.command body isTested)

/-- Say what has killed a program, if something has. -/
def report (ending : Ending) : Act Unit := do
  match ending with
  | .killed signal => write 2 (Signal.obituary signal)
  | .exited _ => return ()

def privateDescriptor (pipe : Nat) : Nat := 1000 + pipe

def outputOf (body : Command) : Act Raw := do
  if let .nothing := body then return []
  let pipe ← newPipe []
  let table := (1, .pipeInlet pipe) :: (← channels).filter (·.1 ≠ 1)
  let shell ← forkShell id table body false
  let descriptor := privateDescriptor pipe
  setChannel descriptor (some (.pipeOutlet pipe))
  let output ← readAll descriptor
  setChannel descriptor none
  let ending ← join shell
  report ending
  modifyMemory fun memory => { memory with substituted := ending.status }
  match output with
  | .ok raw => return ((raw.filter (· ≠ '\x00')).reverse.dropWhile (· = '\n')).reverse
  | .error _ => return []

inductive Content where
  | missing
  | text (value : Raw)
  /-- All arguments, perhaps one by one. -/
  | arguments (values : List Raw) (oneByOne : Bool)

namespace Content

/-- The content, unless it is empty and that counts as missing. -/
def unlessEmpty (colon : Bool) : Content → Content
  | text [] => if colon then missing else text []
  | arguments values oneByOne =>
      if colon && (values = [] || values = [[]]) then missing else arguments values oneByOne
  | content => content

end Content

def contentOf (name : Raw) : Act Content := do
  let memory ← memory
  let ofOption : Option Raw → Content
    | some value => .text value
    | none => .missing
  match name with
  | ['@'] => return .arguments memory.arguments true
  | ['*'] => return .arguments memory.arguments false
  | ['#'] => return .text (Raw.ofNat memory.arguments.length)
  | ['?'] => return .text (Raw.ofNat memory.status)
  | ['$'] => return .text (Raw.ofNat memory.process)
  | ['!'] => return ofOption (memory.lastJob.map Raw.ofNat)
  | ['-'] => return .text memory.flags
  | ['0'] => return .text memory.name
  | name =>
      match Raw.nat? name with
      | some n =>
          if n = 0 then return .text memory.name
          else return ofOption memory.arguments[n - 1]?
      | none => return ofOption (memory.value? name)

inductive HomeSign where
  | nowhere
  | atStart
  /-- At the start of a value and after each colon in it. -/
  | inValue
  deriving DecidableEq

structure Manner where
  /-- Whether the result is split into fields. -/
  splits : Bool
  home : HomeSign
  /-- Whether also plain characters may be separated. -/
  inner : Bool

namespace Manner

def argument : Manner := ⟨true, .atStart, false⟩

def single : Manner := ⟨false, .atStart, false⟩

def value : Manner := ⟨false, .inValue, false⟩

/-- For texts in which only parameters, commands and arithmetic count. -/
def bare : Manner := ⟨false, .nowhere, false⟩

def within (manner : Manner) : Manner :=
  { manner with
    inner := true
    home := if manner.home = .inValue then .inValue else .atStart }

end Manner

def Stretch.ofValue (quoted : Bool) (value : Raw) : Stretch :=
  ⟨value.map (.char · quoted), if quoted then .never else .atSeparators⟩

def Stretch.ofArguments (manner : Manner) (quoted oneByOne : Bool) (joint : Raw)
    (values : List Raw) : Stretch :=
  let atoms (between : List Atom) : List Atom :=
    ((values.map fun value => value.map (Atom.char · quoted)).intersperse between).flatten
  if manner.splits && quoted && oneByOne then
    ⟨atoms [.gap], if values = [] then .never else .atGaps⟩
  else if manner.splits && !quoted then ⟨atoms [.gap], .atSeparators⟩
  else ⟨atoms (joint.map (.char · quoted)), .never⟩

def Content.stretches (manner : Manner) (quoted : Bool) (joint : Raw) : Content → List Stretch
  | missing => []
  | text value => [.ofValue quoted value]
  | arguments values oneByOne => [.ofArguments manner quoted oneByOne joint values]

def Content.length (manner : Manner) (quoted : Bool) (joint : Raw) : Content → Nat
  | missing => 0
  | text value => value.length
  | arguments values _ =>
      let between := if manner.splits && !quoted then 1 else joint.length
      (values.map List.length).foldl (· + ·) 0 + (values.length - 1) * between

/-- Stretches without the shortest or the longest piece at one end that matches.  The piece may go
on beyond an argument, but only what it has of its first argument is matched. -/
def Stretch.strip (pieces : List Piece) (atEnd longest : Bool) (stretch : Stretch) : Stretch :=
  let atoms := stretch.atoms
  let cuts := List.range (atoms.length + 1)
  let sizes := if longest then cuts.reverse else cuts
  let piece (size : Nat) := if atEnd then atoms.drop (atoms.length - size) else atoms.take size
  let text (atoms : List Atom) : Raw := (atoms.takeWhile (· ≠ .gap)).filterMap fun atom =>
    match atom with
    | .char c _ => some c
    | _ => none
  match sizes.find? fun size => Piece.matchAll pieces (text (piece size)) with
  | some size =>
      { stretch with
        atoms := if atEnd then atoms.take (atoms.length - size) else atoms.drop size }
  | none => stretch

def homeOf? (memory : Memory) (name : Raw) : Option Raw :=
  if name = [] then memory.valueOf? "HOME"
  else if name = "root".toList then some "/root".toList
  else none

/-- Plain characters that may start with the sign for a home directory; something may follow them
directly. -/
def homeOpened (memory : Memory) (separation : Separation) (followed : Bool) (text : Raw) :
    List Stretch :=
  let plain (text : Raw) : Stretch := ⟨text.map (.char · false), separation⟩
  match text with
  | '~' :: rest =>
      let name := rest.takeWhile (· ≠ '/')
      let after := rest.drop name.length
      match if after = [] && followed then none else homeOf? memory name with
      | some home => [.ofRaw true home, plain after]
      | none => [plain text]
  | text => [plain text]

def plainStretches (memory : Memory) (manner : Manner) (atStart followed : Bool) (text : Raw) :
    List Stretch :=
  let separation : Separation := if manner.inner then .atSeparators else .never
  let plain (text : Raw) : Stretch := ⟨text.map (.char · false), separation⟩
  match manner.home with
  | .nowhere => [plain text]
  | .atStart =>
      if atStart then homeOpened memory separation followed text else [plain text]
  | .inValue =>
      match Raw.splitOn ':' text with
      | [] => []
      | first :: rest =>
          let opened := rest.map fun piece => plain [':'] :: homeOpened memory separation
            followed piece
          (if atStart then homeOpened memory separation (followed && rest = []) first
            else [plain first]) ++ opened.flatten

/-- Give up because a parameter has no value. -/
def insistOnValue {α : Type} (name message : Raw) : Act α :=
  fail (name ++ ": ".toList ++ message)

/-- Give up because an expression has no value. -/
def faulty {α : Type} (expression : Raw) : Arithmetic.Fault → Act α
  | .wrong message =>
      fail ("arithmetic expression: ".toList ++ message.toList ++ ": \"".toList ++ expression ++
        ['"'])
  | .noNumber text => illegalNumber text
  | .readOnly name => fail (name ++ ": is read only".toList)
  | .overflow => throw (.killed 8)
  | .tooDeep => throw (.killed 11)

def valueOfExpression (expression : Raw) : Act Raw := do
  let memory ← memory
  let known : Arithmetic.Variables :=
    ⟨memory.value?, fun name => (memory.entry name).isReadOnly⟩
  match Arithmetic.evaluate known expression with
  | .error fault => faulty expression fault
  | .ok (value, assigned) => do
      for (name, value) in assigned do
        setVariable name value
      return Raw.ofInt value

/-- Nothing, or a complaint about a parameter without a value, if the shell is strict about them. -/
def missingValue (name : Raw) : Act (List Stretch) := do
  if (← memory).isOn 'u' then insistOnValue name "parameter not set".toList
  else return []

mutual

def expandPart (manner : Manner) (atStart followed : Bool) : Part → Act (List Stretch)
  | .plain text => return plainStretches (← memory) manner atStart followed text
  | .quoted [] => return [⟨[.quotes], .never⟩]
  | .quoted text => return [.ofRaw true text]
  | .substitution body quoted => return [.ofValue quoted (← outputOf body)]
  | .arithmetic expression quoted => do
      let text := Stretch.text (← expandParts .bare true expression)
      return [.ofValue quoted (← valueOfExpression text)]
  | .parameter name use quoted => expandUse manner name quoted use

def expandParts (manner : Manner) (atStart : Bool) : List Part → Act (List Stretch)
  | [] => return []
  | part :: rest => do
      let first ← expandPart manner atStart (!rest.isEmpty) part
      return first ++ (← expandParts manner false rest)

def expandUse (manner : Manner) (name : Raw) (quoted : Bool) : Use → Act (List Stretch)
  | .value => do
      match ← contentOf name with
      | .missing => missingValue name
      | content => return content.stretches manner quoted (← memory).joint
  | .length => do
      match ← contentOf name with
      | .missing => do
          let _ ← missingValue name
          return [.ofValue quoted ['0']]
      | content =>
          return [.ofValue quoted
            (Raw.ofNat (content.length manner quoted (← memory).joint))]
  | .orElse colon word => do
      match (← contentOf name).unlessEmpty colon with
      | .missing => expandParts manner.within true word
      | content => return content.stretches manner quoted (← memory).joint
  | .instead colon word => do
      match (← contentOf name).unlessEmpty colon with
      | .missing => return []
      | _ => expandParts manner.within true word
  | .assign colon word => do
      match (← contentOf name).unlessEmpty colon with
      | .missing => do
          let value := Stretch.text (← expandParts .single true word)
          if !isName name then insistOnValue name "bad variable name".toList
          setVariable name value
          return [.ofValue quoted value]
      | content => return content.stretches manner quoted (← memory).joint
  | .insist colon word => do
      match (← contentOf name).unlessEmpty colon with
      | .missing => do
          let message := Stretch.text (← expandParts .single true word)
          insistOnValue name (if word.isEmpty then
            "parameter not set".toList ++ (if colon then " or null".toList else [])
            else message)
      | content => return content.stretches manner quoted (← memory).joint
  | .strip atEnd longest word => do
      match ← contentOf name with
      | .missing => missingValue name
      | content => do
          let stretches := content.stretches manner quoted (← memory).joint
          let pieces := pattern (Stretch.marked (← expandParts .single true word))
          return stretches.map (Stretch.strip pieces atEnd longest)
  | .nonsense => fail "Bad substitution".toList

end

def expandText (manner : Manner) (word : Word) : Act Raw :=
  return Stretch.text (← expandParts manner true word)

def expandPattern (word : Word) : Act (List Piece) :=
  return pattern (Stretch.marked (← expandParts .single true word))

def expandWord (word : Word) : Act (List Raw) := do
  let stretches ← expandParts .argument true word
  let memory ← memory
  let fields := splitFields memory.separators stretches
  if memory.isOn 'f' then return fields.map fun field => field.map (·.1)
  let files := (← machine).files
  let directory := (← task).directory
  return fields.flatMap (filesOrField files directory)

def expandWords : List Word → Act (List Raw)
  | [] => return []
  | word :: rest => do
      let first ← expandWord word
      return first ++ (← expandWords rest)

def expandValue (word : Word) : Act Raw := expandText .value word

end EditorBridge.Shell
