import EditorBridge.Files.Tree
import EditorBridge.Host.Process
import EditorBridge.Shell.Memory

/-!
# The machine that programs run on

Programs share files, pipes and a clock.  A task is a running program with its directory, its
environment and its place among the others; where its file descriptors lead is known to the machine,
because a pipe comes to its end when nobody holds the other end.

What a program does takes no time, except that it waits: for a time, for a pipe, or for another
program.
-/
namespace EditorBridge.Host

open Shell (Ending)

inductive Channel where
  /-- A file that has been opened, by its number. -/
  | file (opened : Nat)
  | pipeOutlet (pipe : Nat)
  | pipeInlet (pipe : Nat)
  /-- The device that takes everything and gives nothing. -/
  | nothing
  /-- The device that takes everything and gives zeros without end. -/
  | zeros
  /-- The device on which there is no room. -/
  | full
  deriving DecidableEq, Repr

/-- A file that has been opened, perhaps for several programs. -/
structure Opened where
  location : Location
  /-- How much has been read or written. -/
  offset : Nat
  isReadable : Bool
  isWritable : Bool
  appends : Bool
  deriving Repr

/-- What was written to a pipe and not yet read: the first part, and the pieces after it, the last
one first. -/
structure Pipe where
  front : Raw
  back : List Raw
  size : Nat
  deriving Repr

namespace Pipe

def empty : Pipe := ⟨[], [], 0⟩

/-- A pipe after a piece more has been written. -/
def push (pipe : Pipe) (raw : Raw) : Pipe :=
  { pipe with back := raw :: pipe.back, size := pipe.size + raw.length }

def content (pipe : Pipe) : Raw := pipe.front ++ pipe.back.reverse.flatten

/-- At most so much from the front of a pipe, and the pipe after that. -/
def pull (pipe : Pipe) (limit : Nat) : Raw × Pipe :=
  let (front, back) := match pipe.front with
    | [] => (pipe.back.reverse.flatten, [])
    | front => (front, pipe.back)
  let (taken, front) := front.splitAt limit
  (taken, ⟨front, back, pipe.size - taken.length⟩)

def ofRaw (raw : Raw) : Pipe := ⟨raw, [], raw.length⟩

/-- How much a pipe holds before a writer has to wait. -/
def capacity : Nat := 65536

end Pipe

/-- What a file executes as: an installed program, how it is called, and its arguments. -/
structure Loaded where
  program : Raw
  name : Raw
  arguments : List Raw
  deriving DecidableEq, Repr

inductive Work where
  | program (loaded : Loaded)
  /-- Carry out a command of the shell that it was forked from; a failure may be tested for. -/
  | command (body : Shell.Command) (isTested : Bool)

structure Task where
  id : Nat
  /-- The name by which its program was called. -/
  name : Raw
  /-- The task that started it. -/
  parent : Nat
  directory : Location
  environment : List (Raw × Raw)
  /-- Signals that do nothing to it. -/
  ignored : List Nat
  /-- The permissions that new files do not get. -/
  mask : Nat
  /-- Limits that have been set, by their letters; nothing stands for no limit. -/
  limits : List (Char × Option Nat)
  /-- What it has still to write to its first output, the last piece first, and how much that is. -/
  pending : List Raw
  pendingSize : Nat
  /-- What it remembers, when it is a shell. -/
  memory : Shell.Memory

/-- What all tasks share. -/
structure Machine where
  files : FileTree
  /-- Milliseconds since the start. -/
  clock : Nat
  /-- The time at which everything is stopped. -/
  deadline : Option Nat
  pipes : Array Pipe
  opened : Array Opened
  /-- Where the file descriptors of each living task lead. -/
  channels : List (Nat × List (Nat × Channel))
  /-- Tasks that have not begun. -/
  newborn : List (Task × Work)
  /-- Tasks that have come to their end. -/
  endings : List (Nat × Ending)
  /-- Signals that have not reached their task. -/
  signals : List (Nat × Nat)
  /-- Tasks with those that started them, the latest first. -/
  parents : List (Nat × Nat)
  nextTask : Nat
  /-- How many steps have been taken. -/
  effort : Nat

structure State where
  machine : Machine
  task : Task

/-- Why a program stops before the end of what it was doing. -/
inductive Stop where
  | exited (status : Nat)
  | killed (signal : Nat)
  /-- Something went wrong that ends a shell unless only a command failed. -/
  | failed
  | breaking (levels : Nat)
  | continuing (levels : Nat)
  | returned (status : Nat)
  /-- Another program takes the place of this one. -/
  | becoming (loaded : Loaded)
  /-- The program would never end. -/
  | overdue
  deriving DecidableEq, Repr

/-- Whether the program can do nothing any more after a stop. -/
def Stop.isFinal : Stop → Bool
  | becoming _ | killed _ | overdue => true
  | _ => false

abbrev Act := ProcessT State Stop

namespace Machine

def holds (machine : Machine) (channel : Channel) : Bool :=
  machine.channels.any fun (_, table) => table.any fun entry => entry.2 = channel

def channelsOf (machine : Machine) (task : Nat) : List (Nat × Channel) :=
  (machine.channels.lookup task).getD []

/-- A machine on which the descriptors of a task lead elsewhere. -/
def setChannels (machine : Machine) (task : Nat) (table : List (Nat × Channel)) : Machine :=
  { machine with channels := (task, table) :: machine.channels.filter (·.1 ≠ task) }

def pipe (machine : Machine) (index : Nat) : Pipe := machine.pipes[index]?.getD .empty

def setPipe (machine : Machine) (index : Nat) (pipe : Pipe) : Machine :=
  { machine with pipes := machine.pipes.setIfInBounds index pipe }

end Machine

namespace Act

def modifyMachine (change : Machine → Machine) : Act Unit :=
  modify fun state => { state with machine := change state.machine }

def modifyTask (change : Task → Task) : Act Unit :=
  modify fun state => { state with task := change state.task }

def machine : Act Machine := return (← get).machine

def task : Act Task := return (← get).task

def await (event : Event) : Act Unit := ProcessT.await event

def sleep (milliseconds : Nat) : Act Unit := do
  await (.time ((← machine).clock + milliseconds))

/-- After so many steps some time passes. -/
def stride : Nat := 1024

/-- Who has taken so many steps never ends. -/
def effortLimit : Nat := 4194304

/-- Take one step.  Many steps take time, and the more so the more there have been, so that a
program that takes steps without end comes to any deadline. -/
def labour : Act Unit := do
  modifyMachine fun machine => { machine with effort := machine.effort + 1 }
  let effort := (← machine).effort
  if effortLimit < effort then throw .overdue
  if effort % stride = 0 then
    let strides := effort / stride
    sleep (1 + strides * strides / 1000)

def labourTimes : Nat → Act Unit
  | 0 => return ()
  | n + 1 => do
      labour
      labourTimes n

/-- How much of a text one goes through in a step. -/
def span : Nat := 128

/-- Take the steps that it takes to go through a text. -/
def labourFor (raw : Raw) : Act Unit := labourTimes (1 + raw.length / span)

/-- No text is longer than this unless it becomes longer and longer. -/
def textLimit : Nat := 16777216

/-- How often something may be repeated. -/
def roundLimit : Nat := 1000000000

def repeatWhile (step : Act Bool) : Nat → Act Unit
  | 0 => throw .overdue
  | rounds + 1 => do
      labour
      if ← step then repeatWhile step rounds else return ()

/-- Do something, and something else after it however it comes out, unless the program is no more.
-/
def finally' {α : Type} (body : Act α) (after : Act Unit) : Act α := do
  let value ← tryCatch body fun stop => do
    if !stop.isFinal then after
    throw stop
  after
  return value

/-- Where the descriptors of the current task lead. -/
def channels : Act (List (Nat × Channel)) := do
  return (← machine).channelsOf (← task).id

/-- Let the descriptors of the current task lead elsewhere. -/
def setChannels (table : List (Nat × Channel)) : Act Unit := do
  let id := (← task).id
  modifyMachine (·.setChannels id table)

def channel? (descriptor : Nat) : Act (Option Channel) := do
  return (← channels).lookup descriptor

/-- Let a descriptor lead somewhere, or nowhere. -/
def setChannel (descriptor : Nat) (channel : Option Channel) : Act Unit := do
  let others := (← channels).filter (·.1 ≠ descriptor)
  setChannels (match channel with
    | some channel => (descriptor, channel) :: others
    | none => others)

def newPipe (content : Raw) : Act Nat := do
  let index := (← machine).pipes.size
  modifyMachine fun machine => { machine with pipes := machine.pipes.push (.ofRaw content) }
  return index

/-- Write to a pipe.  Those that lead outside are read all the time; the others may be full, or have
nobody any more who reads them. -/
def writePipe (index : Nat) (raw : Raw) : Act (Except SystemError Unit) := do
  if index < 2 then
    if textLimit < ((← machine).pipe index).size then throw .overdue
  else
    let machine ← machine
    if Pipe.capacity ≤ (machine.pipe index).size ∨ !machine.holds (.pipeOutlet index) then
      await (.room index)
    if !(← Act.machine).holds (.pipeOutlet index) then
      if (← task).ignored.contains 13 then return .error (.number 32)
      else throw (.killed 13)
  modifyMachine fun machine => machine.setPipe index ((machine.pipe index).push raw)
  return .ok ()

/-- A content with a piece written at an offset, zeros filling a gap. -/
def overwritten (content : Bytes) (offset : Nat) (piece : Bytes) : Bytes :=
  content.take offset ++ List.replicate (offset - content.length) 0 ++ piece
    ++ content.drop (offset + piece.length)

def writeOpened (index : Nat) (raw : Raw) : Act (Except SystemError Unit) := do
  let machine ← machine
  match machine.opened[index]? with
  | none => return .error .badDescriptor
  | some opened =>
      if !opened.isWritable then return .error .badDescriptor
      match machine.files.entry? opened.location with
      | some (.file content executable) =>
          let offset := if opened.appends then content.length else opened.offset
          if textLimit < content.length + raw.length then throw .overdue
          let content := overwritten content offset (Raw.toBytes raw)
          let opened := { opened with offset := offset + raw.length }
          modifyMachine fun machine =>
            { machine with
              files := machine.files.put opened.location (.file content executable)
              opened := machine.opened.setIfInBounds index opened }
          return .ok ()
      | _ => return .ok ()

def writeTo (descriptor : Nat) (raw : Raw) : Act (Except SystemError Unit) := do
  match ← channel? descriptor with
  | none => return .error .badDescriptor
  | some channel =>
      if raw = [] then return .ok ()
      match channel with
      | .file index => writeOpened index raw
      | .pipeInlet index => writePipe index raw
      | .pipeOutlet _ => return .error .badDescriptor
      | .nothing | .zeros => return .ok ()
      | .full => return .error (.number 28)

/-- Write to a descriptor whether or not it takes anything. -/
def write (descriptor : Nat) (raw : Raw) : Act Unit := do
  let _ ← writeTo descriptor raw

/-- Keep something that is to be written. -/
def say (raw : Raw) : Act Unit :=
  modifyTask fun task =>
    { task with pending := raw :: task.pending, pendingSize := task.pendingSize + raw.length }

def sayLine (raw : Raw) : Act Unit := say (raw ++ ['\n'])

def forget : Act Unit := modifyTask fun task => { task with pending := [], pendingSize := 0 }

def flush : Act (Except SystemError Unit) := do
  match (← task).pending with
  | [] => return .ok ()
  | pieces => do
      forget
      writeTo 1 pieces.reverse.flatten

/-- Read from a pipe: at most so much of what is there, and nothing at its end. -/
def readPipe (index limit : Nat) : Act Raw := do
  if ((← machine).pipe index).size = 0 then await (.input index)
  let (taken, pipe) := ((← machine).pipe index).pull limit
  modifyMachine fun machine => machine.setPipe index pipe
  return taken

def readOpened (index limit : Nat) : Act (Except SystemError Raw) := do
  let machine ← machine
  match machine.opened[index]? with
  | none => return .error .badDescriptor
  | some opened =>
      if !opened.isReadable then return .error .badDescriptor
      match machine.files.entry? opened.location with
      | some (.file content _) =>
          let piece := (content.drop opened.offset).take limit
          let opened := { opened with offset := opened.offset + piece.length }
          modifyMachine fun machine =>
            { machine with opened := machine.opened.setIfInBounds index opened }
          return .ok (Raw.ofBytes piece)
      | some .directory => return .error .isDirectory
      | none => return .ok []

/-- Read at most so much from a descriptor; nothing at its end. -/
def readFrom (descriptor limit : Nat) : Act (Except SystemError Raw) := do
  match ← channel? descriptor with
  | none => return .error .badDescriptor
  | some channel =>
      match channel with
      | .file index => readOpened index limit
      | .pipeOutlet index => return .ok (← readPipe index limit)
      | .pipeInlet _ => return .error .badDescriptor
      | .nothing => return .ok []
      | .zeros | .full => return .ok (List.replicate limit '\x00')

/-- How much is read at a time. -/
def blockSize : Nat := 65536

/-- Read a descriptor to its end, which must be there. -/
def readToEnd (descriptor : Nat) : Nat → List Raw → Act (Except SystemError Raw)
  | 0, _ => throw .overdue
  | rounds + 1, pieces => do
      match ← channel? descriptor with
      | some .zeros | some .full => throw .overdue
      | _ =>
          match ← readFrom descriptor blockSize with
          | .error error => return .error error
          | .ok [] => return .ok pieces.reverse.flatten
          | .ok piece => do
              labourFor piece
              readToEnd descriptor rounds (piece :: pieces)

def readAll (descriptor : Nat) : Act (Except SystemError Raw) := readToEnd descriptor roundLimit []

/-- What a special file leads to, by the names on the way to it. -/
def special? (location : Location) : Option Channel :=
  if location = [Utf8.encode "dev", Utf8.encode "null"] then some .nothing
  else if location = [Utf8.encode "dev", Utf8.encode "zero"] then some .zeros
  else if location = [Utf8.encode "dev", Utf8.encode "full"] then some .full
  else none

/-- The descriptor that a special file stands for. -/
def standard? (location : Location) : Option Nat :=
  if location = [Utf8.encode "dev", Utf8.encode "stdin"] then some 0
  else if location = [Utf8.encode "dev", Utf8.encode "stdout"] then some 1
  else if location = [Utf8.encode "dev", Utf8.encode "stderr"] then some 2
  else none

def newOpened (opened : Opened) : Act Channel := do
  let index := (← machine).opened.size
  modifyMachine fun machine => { machine with opened := machine.opened.push opened }
  return .file index

/-- Open a path: to read it, or to write it, or both; it may be made and emptied before, or only be
added to. -/
def openPath (path : Raw) (access : Shell.Access) : Act (Except SystemError Channel) := do
  let files := (← machine).files
  let directory := (← task).directory
  let bytes := Raw.toBytes path
  let writes := match access with
    | .read => false
    | _ => true
  let target := if writes then files.locateFile directory bytes else files.locate directory bytes
  match target with
  | .error error => return .error error
  | .ok location =>
      match special? location, standard? location with
      | some channel, _ => return .ok channel
      | none, some descriptor =>
          match ← channel? descriptor with
          | some channel => return .ok channel
          | none => return .error .noEntry
      | none, none =>
          if !writes then
            match files.entry? location with
            | none => return .error .noEntry
            | some _ => return .ok (← newOpened ⟨location, 0, true, false, false⟩)
          else
            let keeps := match access with
              | .write | .overwrite => false
              | _ => true
            match files.write directory bytes keeps [] with
            | (_, .error error) => return .error error
            | (files, .ok ()) =>
                modifyMachine fun machine => { machine with files }
                let readable := match access with
                  | .both => true
                  | _ => false
                let appends := match access with
                  | .append => true
                  | _ => false
                return .ok (← newOpened ⟨location, 0, readable, true, appends⟩)

/-- A new task that starts with the channels of the current one. -/
def fork (prepare : Task → Task) (table : List (Nat × Channel)) (work : Work) : Act Nat := do
  let task ← task
  modifyMachine fun machine =>
    let id := machine.nextTask
    let machine := machine.setChannels id table
    { machine with
      nextTask := id + 1
      parents := (id, task.id) :: machine.parents
      newborn := machine.newborn ++
        [({ prepare task with id, parent := task.id, pending := [], pendingSize := 0 }, work)] }
  return (← machine).nextTask - 1

/-- How a task has ended, if it has and nobody has asked yet. -/
def ending? (id : Nat) : Act (Option Ending) := do
  let found := (← machine).endings.lookup id
  if found.isSome then
    modifyMachine fun machine =>
      { machine with endings := machine.endings.filter (·.1 ≠ id) }
  return found

/-- Wait for a task, and give how it has ended. -/
def join (id : Nat) : Act Ending := do
  if !((← machine).endings.any (·.1 = id)) then await (.ending id)
  return (← ending? id).getD (.exited 127)

inductive Effect where
  | nothing
  /-- It stops the program for as long as nobody lets it go on. -/
  | stops
  | kills
  /-- The program has been told to do something about it. -/
  | caught
  deriving DecidableEq, Repr

def stopping : List Nat := [19, 20, 21, 22]

/-- The signal that lets a stopped program go on. -/
def resuming : Nat := 18

/-- Signals that do nothing by themselves. -/
def harmless : List Nat := [0, 17, 18, 23, 28]

/-- Signals that nothing can be done about. -/
def inexorable : List Nat := [9, 19]

def effectOn (task : Task) (signal : Nat) : Effect :=
  if inexorable.contains signal then (if signal = 9 then .kills else .stops)
  else if task.ignored.contains signal then .nothing
  else if (task.memory.trap? signal).isSome then .caught
  else if harmless.contains signal then .nothing
  else if stopping.contains signal then .stops
  else .kills

def noting (signal : Nat) (task : Task) : Task :=
  let memory := task.memory
  if memory.caught.contains signal then task
  else { task with memory := { memory with caught := memory.caught ++ [signal] } }

/-- Send a signal to the current task itself. -/
def raise (signal : Nat) : Act Unit := do
  match effectOn (← task) signal with
  | .nothing => return ()
  | .stops => throw .overdue
  | .kills => throw (.killed signal)
  | .caught => modifyTask (noting signal)

def tasks : Act (List Nat) := do
  let machine ← machine
  return machine.channels.map (·.1) ++ machine.endings.map (·.1)

/-- The tasks that come from a task, directly or not. -/
def descendants (id : Nat) : Act (List Nat) := do
  return (← machine).parents.foldr
    (fun (child, parent) found =>
      if parent = id || found.contains parent then child :: found else found) []

/-- Send a signal to a task, or to all tasks if none is named. -/
def send (signal : Nat) (target : Option Nat) : Act (Except SystemError Unit) := do
  let self := (← task).id
  let tasks ← tasks
  let others := match target with
    | some id => if id = self then [] else [id]
    | none => tasks.filter (· ≠ self)
  if others.any fun id => !tasks.contains id then return .error (.number 3)
  modifyMachine fun machine =>
    { machine with signals := machine.signals ++ others.map fun id => (id, signal) }
  if target = none ∨ target = some self then raise signal
  return .ok ()

end Act

end EditorBridge.Host
