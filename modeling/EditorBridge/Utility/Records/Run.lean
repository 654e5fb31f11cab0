import EditorBridge.Utility.Processes
import EditorBridge.Utility.Records.Reader

/-!
# Running programs about records

What is done before the first record, for each record, and after the last one.  Records come from
files, from the output of commands, or from the first input.  A reason not to go on leaves what has
been remembered as it is.
-/
namespace EditorBridge.Utility.Records

open Host Act
open EditorBridge.Regex (Place Found)

/-- Why something is not gone on with. -/
inductive Leave where
  | next
  | nextFile
  | exit
  | fault (message : Raw)

inductive Flow where
  | done
  | leave
  | goOn
  | giveBack (value : Value)

inductive Slot where
  | value (value : Value)
  | table (id : Nat)
  /-- Nothing yet; a table with some number as soon as it is used as one. -/
  | unused (id : Nat)

structure Source where
  descriptor : Nat
  /-- What has been read ahead. -/
  ready : Raw
  isOver : Bool
  /-- The task that writes there. -/
  process : Option Nat

structure Outflow where
  outlet : Outlet
  name : Raw
  descriptor : Nat
  /-- What has not been written yet, the last piece first, and how much that is. -/
  kept : List Raw
  size : Nat
  process : Option Nat

structure Memory where
  program : Program
  globals : Std.HashMap Raw Slot
  /-- What the names of functions that have been called stand for, the last one first. -/
  frames : List (List (Raw × Slot))
  tables : Std.HashMap Nat Table
  nextTable : Nat
  record : Value
  fields : Array Value
  /-- Where the records come from, the argument after that, and whether there was any file. -/
  input : Option Source
  argument : Nat
  hasFile : Bool
  sources : List ((Bool × Raw) × Source)
  outflows : List Outflow
  nextDescriptor : Nat
  /-- The ranges in which the record is. -/
  active : List Nat
  status : Nat
  seed : Nat
  effort : Nat

/-- An action of a program about records. -/
abbrev Compute := ExceptT Leave (StateT Memory Act)

def fieldCountName : Raw := "NF".toList
def recordCountName : Raw := "NR".toList
def fileRecordCountName : Raw := "FNR".toList
def fieldSeparatorName : Raw := "FS".toList
def recordSeparatorName : Raw := "RS".toList
def outputSeparatorName : Raw := "OFS".toList
/-- What is printed after values. -/
def outputTerminatorName : Raw := "ORS".toList
def indexSeparatorName : Raw := "SUBSEP".toList
def conversionName : Raw := "CONVFMT".toList
def outputFormatName : Raw := "OFMT".toList
def fileNameName : Raw := "FILENAME".toList
def matchStartName : Raw := "RSTART".toList
def matchLengthName : Raw := "RLENGTH".toList
def argumentsName : Raw := "ARGV".toList
def argumentCountName : Raw := "ARGC".toList
def environmentName : Raw := "ENVIRON".toList

def slot? (name : Raw) : Compute (Option Slot) := do
  let memory ← get
  match memory.frames with
  | frame :: _ =>
      match frame.lookup name with
      | some slot => return some slot
      | none => return memory.globals[name]?
  | [] => return memory.globals[name]?

/-- Let a name stand for something. -/
def setSlot (name : Raw) (slot : Slot) : Compute Unit :=
  modify fun memory =>
    match memory.frames with
    | frame :: frames =>
        if (frame.lookup name).isSome then
          { memory with
            frames := frame.map (fun (other, old) =>
              if other = name then (other, slot) else (other, old)) :: frames }
        else { memory with globals := memory.globals.insert name slot }
    | [] => { memory with globals := memory.globals.insert name slot }

def newTable : Compute Nat := do
  let id := (← get).nextTable
  modify fun memory => { memory with nextTable := id + 1 }
  return id

/-- The number of the table that a name stands for. -/
def tableOf (name : Raw) : Compute Nat := do
  match ← slot? name with
  | some (.table id) => return id
  | some (.unused id) => do
      setSlot name (.table id)
      return id
  | some (.value .unset) | none => do
      let id ← newTable
      setSlot name (.table id)
      return id
  | some (.value _) => throw (.fault ("type error in reference to array ".toList ++ name))

def tableAt (id : Nat) : Compute Table := do return ((← get).tables[id]?).getD .empty

def setTable (id : Nat) (table : Table) : Compute Unit :=
  modify fun memory => { memory with tables := memory.tables.insert id table }

def changeTable (id : Nat) (change : Table → Table) : Compute Unit :=
  modify fun memory =>
    let table := (memory.tables[id]?).getD .empty
    { memory with tables := (memory.tables.erase id).insert id (change table) }

def plainValue (name : Raw) : Compute Value := do
  match ← slot? name with
  | some (.value value) => return value
  | some (.unused _) | none => return .unset
  | some (.table _) => throw (.fault ("illegal reference to array ".toList ++ name))

def conversion : Compute Raw := do
  match ← plainValue conversionName with
  | .text raw | .input raw => return raw
  | value => return value.toText "%.6g".toList

def textOf (value : Value) : Compute Raw := do
  match value with
  | .text raw | .input raw => return raw
  | .unset => return []
  | .number x =>
      match whole? x with
      | some n => return Raw.ofInt n
      | none => return value.toText (← conversion)

def textNamed (name : Raw) : Compute Raw := do textOf (← plainValue name)

def compile (text : Raw) : Compute Regex := do
  match regexOf text with
  | .ok regex => return regex
  | .error message => throw (.fault message)

def takesSome (start finish : Place) : Bool := start.index < finish.index

/-- The parts of a text between matches that take something. -/
def partsBetween (regex : Regex) : Nat → Place → List Raw
  | 0, place => [place.rest]
  | fuel + 1, place =>
      match regex.searchFor? takesSome place with
      | none => [place.rest]
      | some found =>
          place.rest.take (found.start.index - place.index) ::
            partsBetween regex fuel found.finish

def wordsIn (text : Raw) : List Raw :=
  let isSpace (c : Char) : Bool := c = ' ' || c = '\t' || c = '\n'
  let (words, last) := text.foldr
    (fun c (words, word) =>
      if isSpace c then (if word = [] then (words, []) else (word :: words, []))
      else (words, c :: word))
    (([], []) : List Raw × Raw)
  if last = [] then words else last :: words

def fieldsIn (separator text : Raw) : Compute (List Raw) := do
  if text = [] then return []
  else match separator with
    | [' '] => return wordsIn text
    | [] => return text.map fun c => [c]
    | [c] => return Raw.splitOn c text
    | separator => do
        let regex ← compile separator
        return partsBetween regex (text.length + 1) (.start text)

/-- The fields of a record, whose lines are fields, too, if records are paragraphs. -/
def recordFields (text : Raw) : Compute (List Raw) := do
  let separator ← textNamed fieldSeparatorName
  if (← textNamed recordSeparatorName) = [] && text ≠ [] then
    return (← (Raw.splitOn '\n' text).mapM (fieldsIn separator)).flatten
  else fieldsIn separator text

def setRecord (text : Raw) : Compute Unit := do
  let fields ← recordFields text
  modify fun memory =>
    { memory with record := .input text, fields := (fields.map Value.input).toArray }

def joinFields : Compute Unit := do
  let separator ← textNamed outputSeparatorName
  let fields ← (← get).fields.toList.mapM textOf
  modify fun memory => { memory with record := .input (Raw.join separator fields) }

/-- The value of a field, of which number zero is the record. -/
def fieldAt (index : Int) : Compute Value := do
  if index < 0 then
    throw (.fault ("negative field index $".toList ++ Raw.ofInt index))
  if index = 0 then return (← get).record
  else return ((← get).fields[index.toNat - 1]?).getD .unset

def resized (fields : Array Value) (count : Nat) : Array Value :=
  if count ≤ fields.size then fields.take count
  else fields ++ Array.replicate (count - fields.size) Value.unset

def fieldLimit : Nat := 32767

def setField (index : Int) (value : Value) : Compute Unit := do
  if index < 0 then
    throw (.fault ("negative field index $".toList ++ Raw.ofInt index))
  if fieldLimit < index then
    throw (.fault "program limit exceeded: maximum number of fields".toList)
  if index = 0 then setRecord (← textOf value)
  else do
    modify fun memory =>
      let fields := resized memory.fields (max index.toNat memory.fields.size)
      { memory with fields := fields.setIfInBounds (index.toNat - 1) value }
    joinFields

def valueNamed (name : Raw) : Compute Value := do
  if name = fieldCountName then return ofNat (← get).fields.size
  else plainValue name

def setNamed (name : Raw) (value : Value) : Compute Unit := do
  if name = fieldCountName then do
    let count := (truncated value.toNumber).toNat
    if fieldLimit < count then
      throw (.fault "program limit exceeded: maximum number of fields".toList)
    modify fun memory => { memory with fields := resized memory.fields count }
    joinFields
  else match ← slot? name with
    | some (.table _) => throw (.fault ("illegal reference to array ".toList ++ name))
    | _ => setSlot name (.value value)

def increase (name : Raw) : Compute Unit := do
  setSlot name (.value (.number ((← plainValue name).toNumber + 1)))

/-- A record from the front of a text, and what comes after it; none if that cannot be told yet. -/
def cutRecord (separator : Raw) (isOver : Bool) (text : Raw) : Compute (Option (Raw × Raw)) := do
  let atEnd : Option (Raw × Raw) := if isOver && text ≠ [] then some (text, []) else none
  match separator with
  | [] =>
      if !isOver then return none
      let text := text.dropWhile (· = '\n')
      if text = [] then return none
      let rec paragraph : Raw → Raw × Raw
        | '\n' :: '\n' :: rest => ([], rest.dropWhile (· = '\n'))
        | ['\n'] => ([], [])
        | c :: rest =>
            let (front, rest) := paragraph rest
            (c :: front, rest)
        | [] => ([], [])
      return some (paragraph text)
  | [c] =>
      let record := text.takeWhile (· ≠ c)
      match text.drop record.length with
      | _ :: rest => return some (record, rest)
      | [] => return atEnd
  | separator => do
      if !isOver then return none
      let regex ← compile separator
      match regex.searchFor? takesSome (.start text) with
      | some found => return some (text.take found.start.index, found.finish.rest)
      | none => return atEnd

/-- The next record from somewhere, and where the others come from. -/
def fetch (separator : Raw) : Nat → Source → Compute (Option Raw × Source)
  | 0, _ => throw (.fault [])
  | rounds + 1, source => do
      match ← cutRecord separator source.isOver source.ready with
      | some (record, rest) => return (some record, { source with ready := rest })
      | none =>
          if source.isOver then return (none, { source with ready := [] })
          else match ← readFrom source.descriptor blockSize with
            | .error error => throw (.fault ("read error (".toList ++ reason error ++ [')']))
            | .ok [] => fetch separator rounds { source with isOver := true }
            | .ok piece => do
                labourFor piece
                fetch separator rounds { source with ready := source.ready ++ piece }

def newDescriptor (channel : Channel) : Compute Nat := do
  let descriptor := (← get).nextDescriptor
  modify fun memory => { memory with nextDescriptor := descriptor + 1 }
  setChannel descriptor (some channel)
  return descriptor

def flushOutflow (outflow : Outflow) : Compute Outflow := do
  if outflow.kept.isEmpty then return outflow
  else
    let _ ← writeTo outflow.descriptor outflow.kept.reverse.flatten
    return { outflow with kept := [], size := 0 }

def flushAll : Compute Unit := do
  pass
  let outflows ← (← get).outflows.mapM flushOutflow
  modify fun memory => { memory with outflows }

/-- The channels that other programs get, perhaps with another input or output. -/
def standardChannels (changed : List (Nat × Channel)) : Compute (List (Nat × Channel)) := do
  return changed ++
    (← channels).filter fun entry => entry.1 < 3 && (changed.lookup entry.1).isNone

def spawn (command : Raw) (table : List (Nat × Channel)) : Compute Nat := do
  match ← loadNamed "/bin/sh".toList ["-c".toList, command] with
  | .error error => throw (.fault ("cannot run a shell: ".toList ++ reason error))
  | .ok loaded => fork id table (.program loaded)

def statusOf : Shell.Ending → Nat
  | .exited status => status
  | .killed signal => 256 + signal

/-- Where records of a file or of a command come from, if they can be had. -/
def sourceOf (isCommand : Bool) (name : Raw) : Compute (Option Source) := do
  match (← get).sources.lookup (isCommand, name) with
  | some source => return some source
  | none =>
      if isCommand then do
        flushAll
        let pipe ← newPipe []
        let id ← spawn name (← standardChannels [(1, .pipeInlet pipe)])
        return some ⟨← newDescriptor (.pipeOutlet pipe), [], false, some id⟩
      else if name = ['-'] || name = "/dev/stdin".toList then
        return some ⟨0, [], false, none⟩
      else match ← openPath name .read with
        | .ok channel => return some ⟨← newDescriptor channel, [], false, none⟩
        | .error _ => return none

def assigned? (argument : Raw) : Option (Raw × Raw) :=
  let name := argument.takeWhile fun c => c.isAlphanum || c = '_'
  match argument.drop name.length with
  | '=' :: text => if name.head?.any startsName then some (name, interpreted text) else none
  | _ => none

/-- Go to the next file of the arguments, or to the first input if there is none at all. -/
def nextInput : Nat → Compute (Option Source)
  | 0 => return none
  | fuel + 1 => do
      let count := (truncated (← plainValue argumentCountName).toNumber).toNat
      let index := (← get).argument
      if count ≤ index then
        if (← get).hasFile then return none
        else
          setSlot fileNameName (.value (.text ['-']))
          modify fun memory => { memory with hasFile := true }
          return some ⟨0, [], false, none⟩
      else
        modify fun memory => { memory with argument := index + 1 }
        let arguments ← tableAt (← tableOf argumentsName)
        let argument ← textOf ((arguments.get? (Raw.ofNat index)).getD .unset)
        if argument = [] then nextInput fuel
        else match assigned? argument with
          | some (name, text) => do
              setNamed name (.input text)
              nextInput fuel
          | none => do
              setSlot fileNameName (.value (.text argument))
              setSlot fileRecordCountName (.value (.number 0))
              modify fun memory => { memory with hasFile := true }
              if argument = ['-'] then return some ⟨0, [], false, none⟩
              else match ← openPath argument .read with
                | .ok channel => return some ⟨← newDescriptor channel, [], false, none⟩
                | .error error =>
                    throw (.fault ("cannot open \"".toList ++ argument ++ "\" (".toList ++
                      reason error ++ [')']))

def nextRecord : Nat → Compute (Option Raw)
  | 0 => return none
  | rounds + 1 => do
      let count := (← get).argument
      let source ← match (← get).input with
        | some source => pure (some source)
        | none =>
            let given := (truncated (← plainValue argumentCountName).toNumber).toNat
            nextInput (given + count + 2)
      match source with
      | none => return none
      | some source => do
          let (record, source) ← fetch (← textNamed recordSeparatorName) roundLimit source
          match record with
          | some record => do
              modify fun memory => { memory with input := some source }
              return some record
          | none => do
              if source.descriptor ≠ 0 then setChannel source.descriptor none
              modify fun memory => { memory with input := none }
              nextRecord rounds

/-- The place to which something is printed. -/
def outflowOf (outlet : Outlet) (name : Raw) : Compute Outflow := do
  match (← get).outflows.find? fun outflow => outflow.outlet = outlet && outflow.name = name with
  | some outflow => return outflow
  | none => do
      let outflow : Outflow ← match outlet with
        | .command => do
            flushAll
            let pipe ← newPipe []
            let id ← spawn name (← standardChannels [(0, .pipeOutlet pipe)])
            pure ⟨outlet, name, ← newDescriptor (.pipeInlet pipe), [], 0, some id⟩
        | _ =>
            match ← openPath name (if outlet = .file then .write else .append) with
            | .ok channel => pure ⟨outlet, name, ← newDescriptor channel, [], 0, none⟩
            | .error error =>
                throw (.fault ("cannot open \"".toList ++ name ++ "\" for output (".toList ++
                  reason error ++ [')']))
      modify fun memory => { memory with outflows := memory.outflows ++ [outflow] }
      return outflow

def emit (raw : Raw) (target : Option (Outlet × Raw)) : Compute Unit := do
  match target with
  | none => put raw
  | some (outlet, name) =>
      if outlet ≠ .command && name = "/dev/stdout".toList then put raw
      else if outlet ≠ .command && name = "/dev/stderr".toList then write 2 raw
      else do
        let outflow ← outflowOf outlet name
        let outflow :=
          { outflow with kept := raw :: outflow.kept, size := outflow.size + raw.length }
        let outflow ← if keptSize ≤ outflow.size then flushOutflow outflow else pure outflow
        modify fun memory =>
          { memory with
            outflows := memory.outflows.map fun other =>
              if other.descriptor = outflow.descriptor then outflow else other }

/-- Come to the end of an outflow, and give the status of its command. -/
def closeOutflow (outflow : Outflow) : Compute Nat := do
  let _ ← flushOutflow outflow
  setChannel outflow.descriptor none
  match outflow.process with
  | some id => return statusOf (← join id)
  | none => return 0

/-- Come to the end of a source, and give the status of its command. -/
def closeSource (source : Source) : Compute Nat := do
  if source.descriptor ≠ 0 then setChannel source.descriptor none
  match source.process with
  | some id => return statusOf (← join id)
  | none => return 0

/-- Come to the end of all with a name, and give the status of the last one, if there is one. -/
def closeNamed (name : Raw) : Compute (Option Nat) := do
  let memory ← get
  let outflows := memory.outflows.filter fun outflow => outflow.name = name
  let sources := memory.sources.filter fun entry => entry.1.2 = name
  modify fun memory =>
    { memory with
      outflows := memory.outflows.filter fun outflow => outflow.name ≠ name
      sources := memory.sources.filter fun entry => entry.1.2 ≠ name }
  if !outflows.isEmpty then pass
  let mut status := none
  for outflow in outflows do
    status := some (← closeOutflow outflow)
  for (_, source) in sources do
    status := some (← closeSource source)
  return status

/-- What takes the place of a match. -/
def replacement (found : Raw) : Raw → Raw
  | [] => []
  | '\\' :: '&' :: rest => '&' :: replacement found rest
  | '\\' :: '\\' :: rest => '\\' :: replacement found rest
  | '&' :: rest => found ++ replacement found rest
  | c :: rest => c :: replacement found rest

/-- A text with its first match replaced, or all of them, and how many there were.  It is known
whether a match has just ended. -/
def substituted (regex : Regex) (new : Raw) (all : Bool) :
    Nat → Bool → Place → Nat × Raw
  | 0, _, place => (0, place.rest)
  | fuel + 1, hasEnded, place =>
      let accepts (start finish : Place) : Bool :=
        !(hasEnded && start.index = place.index && finish.index = start.index)
      match regex.searchFor? accepts place with
      | none => (0, place.rest)
      | some found =>
          let before := place.rest.take (found.start.index - place.index)
          let meant := before ++ replacement found.text new
          if !all then (1, meant ++ found.finish.rest)
          else if found.start.index < found.finish.index then
            let (count, rest) := substituted regex new all fuel true found.finish
            (count + 1, meant ++ rest)
          else match found.finish.rest with
            | [] => (1, meant)
            | c :: _ =>
                let (count, rest) := substituted regex new all fuel false (found.finish.skip 1)
                (count + 1, meant ++ c :: rest)

def partOf (text : Raw) (start : Int) (count : Option Int) : Raw :=
  let rest := text.drop (start - 1).toNat
  match count with
  | none => rest
  | some count => rest.take (if start < 1 then count - start else count).toNat

/-- Where a text occurs in another one, counted from one; zero if it does not. -/
def placeOf (part : Raw) : Nat → Raw → Nat
  | index, text =>
      if part.isPrefixOf text then index
      else match text with
        | [] => 0
        | _ :: rest => placeOf part (index + 1) rest

/-- The next number in a series that has no order. -/
def nextSeed (seed : Nat) : Nat := (seed * 1103515245 + 12345) % 2147483648

/-- Take some of the steps that an evaluation takes. -/
def toil : Compute Unit := do
  let effort := (← get).effort + 1
  modify fun memory => { memory with effort }
  if effort % 16 = 0 then labour

def keyNumber? : Value → Option Int
  | .number x => whole? x
  | _ => none

/-- Something that is wrong while the program runs, with the place in the input. -/
def runFault {α : Type} (message : Raw) : Compute α := do
  throw (.fault ("run time error: ".toList ++ message ++ "\n\tFILENAME=\"".toList ++
    (← textNamed fileNameName) ++ "\" FNR=".toList ++ (← textNamed fileRecordCountName) ++
    " NR=".toList ++ (← textNamed recordCountName)))

def formatFault (function : String) (format : Raw) : FormatFault → Raw
  | .argumentsMissing =>
      ("not enough arguments passed to " ++ function ++ "(\"").toList ++ format ++ "\")".toList
  | .improper number =>
      "improper conversion(number ".toList ++ Raw.ofNat number ++
        (") in " ++ function ++ "(\"").toList ++ format ++ "\")".toList

/-- What a function of a number gives. -/
def numeric? : Primitive → Option (Float → Float)
  | .sine => some Float.sin
  | .cosine => some Float.cos
  | .exponential => some Float.exp
  | .logarithm => some Float.log
  | .root => some Float.sqrt
  | .whole => some fun x => if x < 0 then x.ceil else x.floor
  | _ => none

mutual

def eval : Nat → Expression → Compute Value
  | 0, _ => throw (.fault [])
  | fuel + 1, expression => do
      match expression with
      | .number value => return .number value
      | .text raw => return .text raw
      | .regex regex => return ofBool (regex.occursIn (← textOf (← get).record))
      | .named name => valueNamed name
      | .element array indices => do
          let (key, number) ← keyOf fuel indices
          let id ← tableOf array
          match (← tableAt id).get? key with
          | some value => return value
          | none => do
              changeTable id fun table => table.put key number .unset
              return .unset
      | .field index => do fieldAt (truncated (← eval fuel index).toNumber)
      | .assign target operator value => do
          let value ← eval fuel value
          let value ← match operator with
            | none => pure value
            | some operator => do
                let before := (← eval fuel target).toNumber
                pure (.number (operator.apply before value.toNumber))
          assign fuel target value
          return value
      | .step target amount isBefore => do
          let before := (← eval fuel target).toNumber
          assign fuel target (.number (before + amount))
          return .number (if isBefore then before + amount else before)
      | .conditional condition yes no => do
          if (← eval fuel condition).isTrue then eval fuel yes else eval fuel no
      | .both first second => do
          if !(← eval fuel first).isTrue then return ofBool false
          else return ofBool (← eval fuel second).isTrue
      | .either first second => do
          if (← eval fuel first).isTrue then return ofBool true
          else return ofBool (← eval fuel second).isTrue
      | .not operand => return ofBool !(← eval fuel operand).isTrue
      | .opposite operand => return .number (-(← eval fuel operand).toNumber)
      | .positive operand => return .number (← eval fuel operand).toNumber
      | .calculated operator first second => do
          let x := (← eval fuel first).toNumber
          let y := (← eval fuel second).toNumber
          return .number (operator.apply x y)
      | .compared relation first second => do
          let a ← eval fuel first
          let b ← eval fuel second
          return ofBool (relation.holds (a.compare (← conversion) b))
      | .matched isNegated text pattern => do
          let text ← textOf (← eval fuel text)
          let regex ← regexFor fuel pattern
          return ofBool (regex.occursIn text ≠ isNegated)
      | .joined first second => do
          let a ← textOf (← eval fuel first)
          let b ← textOf (← eval fuel second)
          if textLimit < a.length + b.length then throw .exit
          return .text (a ++ b)
      | .isIn indices array => do
          let (key, _) ← keyOf fuel indices
          return ofBool ((← tableAt (← tableOf array)).get? key).isSome
      | .call name arguments => callRoutine fuel name arguments
      | .primitive primitive arguments => callPrimitive fuel primitive arguments
      | .getline source target => takeLine fuel source target
      | .group [member] => eval fuel member
      | .group members => do
          let (key, _) ← keyOf fuel members
          return .text key
termination_by structural fuel => fuel

def evalAll : Nat → List Expression → Compute (List Value)
  | 0, _ => throw (.fault [])
  | _, [] => return []
  | fuel + 1, first :: rest => do
      let value ← eval fuel first
      return value :: (← evalAll fuel rest)
termination_by structural fuel => fuel

/-- The key that indices are, and the number that it was given as. -/
def keyOf : Nat → List Expression → Compute (Raw × Option Int)
  | 0, _ => throw (.fault [])
  | fuel + 1, indices => do
      match ← evalAll fuel indices with
      | [value] => return (← textOf value, keyNumber? value)
      | values => do
          let separator ← textNamed indexSeparatorName
          return (Raw.join separator (← values.mapM textOf), none)
termination_by structural fuel => fuel

/-- The regular expression that an expression is or gives. -/
def regexFor : Nat → Expression → Compute Regex
  | 0, _ => throw (.fault [])
  | fuel + 1, expression => do
      match expression with
      | .regex regex => return regex
      | expression => compile (← textOf (← eval fuel expression))
termination_by structural fuel => fuel

def assign : Nat → Expression → Value → Compute Unit
  | 0, _, _ => throw (.fault [])
  | fuel + 1, target, value => do
      match target with
      | .named name => setNamed name value
      | .element array indices => do
          let (key, number) ← keyOf fuel indices
          changeTable (← tableOf array) fun table => table.put key number value
      | .field index => do setField (truncated (← eval fuel index).toNumber) value
      | _ => return ()
termination_by structural fuel => fuel

/-- What the names of a function stand for when it is called. -/
def slotsFor : Nat → List Raw → List Expression → Compute (List (Raw × Slot))
  | 0, _, _ => throw (.fault [])
  | _, [], _ => return []
  | fuel + 1, name :: names, [] => do
      let id ← newTable
      return (name, .unused id) :: (← slotsFor fuel names [])
  | fuel + 1, name :: names, argument :: arguments => do
      let slot ← match argument with
        | .named other => do
            match ← slot? other with
            | some (.table id) => pure (Slot.table id)
            | some (.unused id) => pure (.unused id)
            | some (.value .unset) | none =>
                if other = fieldCountName then pure (.value (← valueNamed other))
                else do
                  let id ← newTable
                  setSlot other (.unused id)
                  pure (.unused id)
            | some (.value value) => pure (.value value)
        | argument => do pure (.value (← eval fuel argument))
      return (name, slot) :: (← slotsFor fuel names arguments)
termination_by structural fuel => fuel

/-- What a function with a definition gives. -/
def callRoutine : Nat → Raw → List Expression → Compute Value
  | 0, _, _ => throw (.fault [])
  | fuel + 1, name, arguments => do
      match (← get).program.routines.lookup name with
      | none => return .unset
      | some routine => do
          toil
          let frame ← slotsFor fuel routine.parameters arguments
          let frames := (← get).frames
          if 10000 < frames.length then throw (.fault "function call nesting too deep".toList)
          modify fun memory => { memory with frames := frame :: frames }
          let flow ← exec fuel routine.body
          modify fun memory => { memory with frames }
          match flow with
          | .giveBack value => return value
          | _ => return .unset
termination_by structural fuel => fuel

/-- What a function without a definition gives. -/
def callPrimitive : Nat → Primitive → List Expression → Compute Value
  | 0, _, _ => throw (.fault [])
  | fuel + 1, primitive, arguments => do
      match primitive, arguments with
      | .length, [] => return ofNat (← textOf (← get).record).length
      | .length, [.named name] => do
          match ← slot? name with
          | some (.table id) | some (.unused id) => return ofNat (← tableAt id).keys.length
          | _ => return ofNat (← textOf (← valueNamed name)).length
      | .length, argument :: _ => return ofNat (← textOf (← eval fuel argument)).length
      | .split, text :: .named array :: rest => do
          let text ← textOf (← eval fuel text)
          let parts ← match rest with
            | [] => fieldsIn (← textNamed fieldSeparatorName) text
            | .regex regex :: _ =>
                pure (if text = [] then []
                  else partsBetween regex (text.length + 1) (.start text))
            | separator :: _ => do fieldsIn (← textOf (← eval fuel separator)) text
          let table := (parts.zipIdx 1).foldl
            (fun (table : Table) (part, index) =>
              table.put (Raw.ofNat index) (some (index : Int)) (.input part)) .empty
          setTable (← tableOf array) table
          return ofNat parts.length
      | .sub, pattern :: new :: rest | .gsub, pattern :: new :: rest => do
          let regex ← regexFor fuel pattern
          let new ← textOf (← eval fuel new)
          let target := rest.headD (.field (.number 0))
          let text ← textOf (← eval fuel target)
          let (count, text) :=
            substituted regex new (primitive = .gsub) (text.length + 2) false (.start text)
          if 0 < count then assign fuel target (.text text)
          return ofNat count
      | .matching, text :: pattern :: _ => do
          let text ← textOf (← eval fuel text)
          let regex ← regexFor fuel pattern
          let (start, length) : Float × Float := match regex.search? (.start text) with
            | some found =>
                (Float.ofNat (found.start.index + 1),
                  Float.ofNat (found.finish.index - found.start.index))
            | none => (0, -1)
          setNamed matchStartName (.number start)
          setNamed matchLengthName (.number length)
          return .number start
      | primitive, arguments => do
          let values ← evalAll fuel arguments
          let first := values.headD .unset
          let second := (values[1]?).getD .unset
          match primitive with
          | .substr => do
              let count := (values[2]?).map fun value => truncated value.toNumber
              return .text (partOf (← textOf first) (truncated second.toNumber) count)
          | .index => do
              let text ← textOf first
              let part ← textOf second
              return ofNat (placeOf part 1 text)
          | .sprintf => do
              let format ← textOf first
              match formatted (← conversion) (format.length + 1) 1 format (values.drop 1) with
              | (text, none) => return .text text
              | (_, some fault) => runFault (formatFault "sprintf" format fault)
          | .arctangent => return .number (Float.atan2 first.toNumber second.toNumber)
          | .random => do
              let seed := nextSeed (← get).seed
              modify fun memory => { memory with seed }
              return .number (Float.ofNat seed / 2147483648)
          | .seed => do
              let before := (← get).seed
              modify fun memory => { memory with seed := (truncated first.toNumber).natAbs }
              return ofNat before
          | .lower => return .text ((← textOf first).map Char.toLower)
          | .upper => return .text ((← textOf first).map Char.toUpper)
          | .system => do
              flushAll
              let id ← spawn (← textOf first) (← standardChannels [])
              return ofNat (statusOf (← join id))
          | .close => do
              match ← closeNamed (← textOf first) with
              | some status => return ofNat status
              | none => return .number (-1)
          | .flush => do
              flushAll
              return .number 0
          | primitive =>
              match numeric? primitive with
              | some function => return .number (function first.toNumber)
              | none => return .unset
termination_by structural fuel => fuel

/-- Take a record from somewhere; what is given tells whether there was one. -/
def takeLine : Nat → Origin → Option Expression → Compute Value
  | 0, _, _ => throw (.fault [])
  | fuel + 1, origin, target => do
      toil
      let keep (counts : List Raw) (record : Raw) : Compute Value := do
        for name in counts do
          increase name
        match target with
        | some target => assign fuel target (.input record)
        | none => setRecord record
        return .number 1
      let through (isCommand : Bool) (name : Raw) : Compute Value := do
        match ← sourceOf isCommand name with
        | none => return .number (-1)
        | some source => do
            let (record, source) ← fetch (← textNamed recordSeparatorName) roundLimit source
            modify fun memory =>
              { memory with
                sources := ((isCommand, name), source) ::
                  memory.sources.filter fun entry => entry.1 ≠ (isCommand, name) }
            match record with
            | some record => keep [] record
            | none => return .number 0
      match origin with
      | .file path => do through false (← textOf (← eval fuel path))
      | .command command => do through true (← textOf (← eval fuel command))
      | .input => do
          match ← nextRecord roundLimit with
          | some record => keep [recordCountName, fileRecordCountName] record
          | none => return .number 0
termination_by structural fuel => fuel

def targetOf : Nat → Option (Outlet × Expression) → Compute (Option (Outlet × Raw))
  | 0, _ => throw (.fault [])
  | _, none => return none
  | fuel + 1, some (outlet, name) => do return some (outlet, ← textOf (← eval fuel name))
termination_by structural fuel => fuel

def exec : Nat → Statement → Compute Flow
  | 0, _ => throw (.fault [])
  | fuel + 1, statement => do
      toil
      match statement with
      | .nothing => return .done
      | .evaluate expression => do
          let _ ← eval fuel expression
          return .done
      | .print values target => do
          let values ← if values.isEmpty then pure [(← get).record] else evalAll fuel values
          let target ← targetOf fuel target
          let format ← textNamed outputFormatName
          let separator ← textNamed outputSeparatorName
          let terminator ← textNamed outputTerminatorName
          emit (Raw.join separator (values.map (Value.toText format)) ++ terminator) target
          return .done
      | .printf values target => do
          let values ← evalAll fuel values
          let target ← targetOf fuel target
          let format ← textOf (values.headD .unset)
          let (text, fault) :=
            formatted (← conversion) (format.length + 1) 1 format (values.drop 1)
          if text ≠ [] then emit text target
          match fault with
          | none => return .done
          | some fault => runFault (formatFault "printf" format fault)
      | .choice condition yes no => do
          if (← eval fuel condition).isTrue then exec fuel yes else exec fuel no
      | .loop condition body => do
          if !(← eval fuel condition).isTrue then return .done
          else match ← exec fuel body with
            | .leave => return .done
            | .giveBack value => return .giveBack value
            | _ => exec fuel (.loop condition body)
      | .loopAfter body condition => do
          match ← exec fuel body with
          | .leave => return .done
          | .giveBack value => return .giveBack value
          | _ =>
              if (← eval fuel condition).isTrue then exec fuel (.loopAfter body condition)
              else return .done
      | .counted start condition step body => do
          let _ ← exec fuel start
          let holds ← match condition with
            | some condition => do pure (← eval fuel condition).isTrue
            | none => pure true
          if !holds then return .done
          else match ← exec fuel body with
            | .leave => return .done
            | .giveBack value => return .giveBack value
            | _ => exec fuel (.counted step condition step body)
      | .forIn name array body => do
          let keys := (← tableAt (← tableOf array)).inOrder
          execForKeys fuel name keys body
      | .sequence statements => execAll fuel statements
      | .next => throw .next
      | .nextFile => throw .nextFile
      | .exit status => do
          match status with
          | some status => do
              let n := (truncated (← eval fuel status).toNumber).emod 256
              modify fun memory => { memory with status := n.toNat }
          | none => pure ()
          throw .exit
      | .giveBack value => do
          match value with
          | some value => return .giveBack (← eval fuel value)
          | none => return .giveBack .unset
      | .leave => return .leave
      | .goOn => return .goOn
      | .delete array [] => do
          setTable (← tableOf array) .empty
          return .done
      | .delete array indices => do
          let (key, _) ← keyOf fuel indices
          changeTable (← tableOf array) fun table => table.erase key
          return .done
termination_by structural fuel => fuel

def execAll : Nat → List Statement → Compute Flow
  | 0, _ => throw (.fault [])
  | _, [] => return .done
  | fuel + 1, first :: rest => do
      match ← exec fuel first with
      | .done => execAll fuel rest
      | flow => return flow
termination_by structural fuel => fuel

/-- Carry out a statement for keys one after another. -/
def execForKeys : Nat → Raw → List Raw → Statement → Compute Flow
  | 0, _, _, _ => throw (.fault [])
  | _, _, [], _ => return .done
  | fuel + 1, name, key :: keys, body => do
      setNamed name (.text key)
      match ← exec fuel body with
      | .leave => return .done
      | .giveBack value => return .giveBack value
      | _ => execForKeys fuel name keys body
termination_by structural fuel => fuel

end

def applies : Condition → Compute Bool
  | .start | .finish => return false
  | .always => return true
  | .when expression => return (← eval roundLimit expression).isTrue
  | .range index first last => do
      let begins ← if (← get).active.contains index then pure true
        else pure (← eval roundLimit first).isTrue
      if !begins then return false
      let ends := (← eval roundLimit last).isTrue
      modify fun memory =>
        { memory with
          active := if ends then memory.active.filter (· ≠ index)
            else index :: memory.active.filter (· ≠ index) }
      return true

/-- Carry out all that is to be done before the first record, or after the last one. -/
def runOutside (atStart : Bool) : Compute Unit := do
  for rule in (← get).program.rules do
    match rule.condition, atStart with
    | .start, true | .finish, false =>
        let _ ← exec roundLimit rule.body
    | _, _ => pure ()

def runRules : Compute Unit := do
  for rule in (← get).program.rules do
    if ← applies rule.condition then
      let _ ← exec roundLimit rule.body

def runRecords : Nat → Compute Unit
  | 0 => return ()
  | rounds + 1 => do
      match ← nextRecord roundLimit with
      | none => return ()
      | some record => do
          labour
          increase recordCountName
          increase fileRecordCountName
          setRecord record
          tryCatch runRules fun leave => match leave with
            | .next => modify fun memory => { memory with frames := [] }
            | .nextFile => modify fun memory => { memory with frames := [], input := none }
            | leave => throw leave
          runRecords rounds

def Rule.needsRecords (rule : Rule) : Bool :=
  match rule.condition with
  | .start => false
  | _ => true

def runProgram : Compute Unit := do
  let unlessLeft (action : Compute Unit) : Compute Bool := do
    tryCatch (do action; return true) fun leave => match leave with
      | .exit => do
          modify fun memory => { memory with frames := [] }
          return false
      | leave => throw leave
  let goesOn ← unlessLeft (runOutside true)
  let program := (← get).program
  if goesOn && program.rules.any Rule.needsRecords then
    let _ ← unlessLeft (runRecords roundLimit)
  let _ ← unlessLeft (runOutside false)

/-- Come to the end of all files and commands. -/
def closeAll : Compute Unit := do
  for outflow in (← get).outflows do
    let _ ← closeOutflow outflow
  for (_, source) in (← get).sources do
    if source.descriptor ≠ 0 then setChannel source.descriptor none

def startingValues : List (Raw × Value) :=
  [(fieldSeparatorName, .text [' ']), (recordSeparatorName, .text ['\n']),
    (outputSeparatorName, .text [' ']), (outputTerminatorName, .text ['\n']),
    (indexSeparatorName, .text ['\x1c']), (conversionName, .text "%.6g".toList),
    (outputFormatName, .text "%.6g".toList), (recordCountName, .number 0),
    (fileRecordCountName, .number 0), (fileNameName, .unset), (matchStartName, .number 0),
    (matchLengthName, .number (-1))]

/-- A table with values from outside by their keys. -/
def tableFrom (entries : List (Raw × Option Int × Raw)) : Table :=
  entries.foldl (fun table (key, number, raw) => table.put key number (.input raw)) .empty

def memoryFor (program : Program) (name : Raw) (environment : List (Raw × Raw))
    (arguments : List Raw) : Memory :=
  let listed := (name :: arguments).zipIdx.map fun (argument, index) =>
    (Raw.ofNat index, some (index : Int), argument)
  let globals := startingValues.foldl
    (fun (globals : Std.HashMap Raw Slot) (name, value) => globals.insert name (.value value)) ∅
  { program
    globals := ((globals.insert argumentsName (.table 0)).insert environmentName (.table 1)).insert
      argumentCountName (.value (ofNat (arguments.length + 1)))
    frames := []
    tables := (((∅ : Std.HashMap Nat Table).insert 0 (tableFrom listed)).insert 1
      (tableFrom (environment.map fun (name, value) => (name, none, value))))
    nextTable := 2, record := .unset, fields := #[], input := none, argument := 1
    hasFile := false, sources := [], outflows := [], nextDescriptor := 10, active := []
    status := 0, seed := 1, effort := 0 }

def usage : List String :=
  ["Usage: mawk [Options] [Program] [file ...]",
    "",
    "Program:",
    "    The -f option value is the name of a file containing program text.",
    "    If no -f option is given, a \"--\" ends option processing; the following",
    "    parameters are the program text.",
    "",
    "Options:",
    "    -f program-file  Program  text is read from file instead of from the",
    "                     command-line.  Multiple -f options are accepted.",
    "    -F value         sets the field separator, FS, to value.",
    "    -v var=value     assigns value to program variable var.",
    "    --               unambiguous end of options.",
    "",
    "    Implementation-specific options are prefixed with \"-W\".  They can be",
    "    abbreviated:",
    "",
    "    -W version       show version information and exit.",
    "    -W compat        pre-POSIX 2001.",
    "    -W dump          show assembler-like listing of program and exit.",
    "    -W help          show this message and exit.",
    "    -W interactive   set unbuffered output, line-buffered input.",
    "    -W exec file     use file as program as well as last option.",
    "    -W posix         stricter POSIX checking.",
    "    -W random=number set initial random seed.",
    "    -W sprintf=number adjust size of sprintf buffer.",
    "    -W usage         show this message and exit."]

def programIn : List Raw → Act Raw
  | [] => return []
  | path :: rest => do
      match ← contentOf path with
      | .ok text => return text ++ '\n' :: (← programIn rest)
      | .error error => do
          complain ("cannot open \"".toList ++ path ++ "\" (".toList ++ reason error ++ [')'])
          throw (.exited 2)

/-- Carry out a program about records. -/
def awk : Utility := fun arguments => do
  match (leadingTable "F:v:f:W:" []).take arguments with
  | .error (.invalidLetter letter) => do
      complain ("not an option: -".toList ++ [letter])
      throw (.exited 2)
  | .error problem => do
      complain problem.message
      throw (.exited 2)
  | .ok options => do
      let files := options.found.filterMap fun (letter, value) =>
        if letter = 'f' then value else none
      let (text, operands) ← match files, options.operands with
        | [], [] => do
            write 2 (usage.flatMap fun line => line.toList ++ ['\n'])
            throw (.exited 0)
        | [], text :: operands => pure (text, operands)
        | files, operands => do pure (← programIn files, operands)
      match readProgram text with
      | .error fault => do
          for message in fault.messages do
            complain message
          throw (.exited 2)
      | .ok program => do
          let task ← task
          let prepare : Compute Unit := do
            for (letter, value) in options.found do
              let value := value.getD []
              if letter = 'F' then
                setNamed fieldSeparatorName (.text (interpreted value))
              if letter = 'v' then
                match assigned? value with
                | some (name, text) => setNamed name (.input text)
                | none => throw (.fault ("improper assignment: -v ".toList ++ value))
            runProgram
          let start := memoryFor program task.name task.environment operands
          let (result, memory) ← prepare.run.run start
          match result with
          | .error (.fault message) => do
              pass
              if message ≠ [] then complain message
              let _ ← closeAll.run.run memory
              throw (.exited 2)
          | _ => do
              let _ ← closeAll.run.run memory
              return memory.status

end EditorBridge.Utility.Records
