import EditorBridge.Daemon.Client
import EditorBridge.Host.Installation

/-!
# Running programs on the machine

How a client program runs, and what its timeout does (specification, 5).

An invocation becomes a task with nothing to read and two pipes to write to.  Tasks go on one after
another, each until it has to wait; time passes only when all of them wait.  The invocation is over
when its task is and nobody can write to the two pipes any more, because until then somebody could.
When that is not before the time allowed, everything is stopped and there is no output.
-/
namespace EditorBridge.Host

open Execution (Invocation Output Failure)
open Shell (Ending)

structure Thread where
  task : Task
  event : Event
  resume : State → Process State Stop Nat

/-- The machine with all the tasks that wait on it, those that have waited longest first. -/
structure Pool where
  machine : Machine
  threads : List Thread
  /-- The tasks that have been stopped for a while. -/
  stopped : List Nat
  /-- Whether a task has turned out to be endless. -/
  isOverdue : Bool

/-- A task that is another program now, and knows nothing of what it was. -/
def Task.become (loaded : Loaded) (task : Task) : Task :=
  { task with name := loaded.name, memory := .blank loaded.name task.id }

def Work.begin : Work → Act Nat
  | .command body isTested => Shell.runForked body isTested
  | .program loaded => do
      Act.modifyTask (·.become loaded)
      match program? loaded.program with
      | some body => body loaded.arguments
      | none => return 127

namespace Pool

def bury (pool : Pool) (machine : Machine) (id : Nat) (ending : Ending) : Pool :=
  { pool with
    machine :=
      { machine with
        channels := machine.channels.filter (·.1 ≠ id)
        endings := (id, ending) :: machine.endings
        signals := machine.signals.filter (·.1 ≠ id) } }

/-- A pool after a task has gone on as far as it could. -/
def absorb (pool : Pool) : Process State Stop Nat → Pool
  | .waiting event state resume =>
      { pool with
        machine := state.machine, threads := pool.threads ++ [⟨state.task, event, resume⟩] }
  | .ended result state =>
      let exited (status : Nat) := pool.bury state.machine state.task.id (.exited (status % 256))
      match result with
      | .ok status | .error (.exited status) | .error (.returned status) => exited status
      | .error .failed => exited 2
      | .error (.breaking _) | .error (.continuing _) => exited 0
      | .error (.killed signal) => pool.bury state.machine state.task.id (.killed signal)
      | .error .overdue => { pool with machine := state.machine, isOverdue := true }
      | .error (.becoming loaded) =>
          { pool with
            machine :=
              { state.machine with
                newborn := state.machine.newborn ++ [(state.task, .program loaded)] } }

def hasEnded (machine : Machine) (id : Nat) : Bool :=
  machine.endings.any (·.1 = id) || !machine.channels.any (·.1 = id)

def hasHappened (machine : Machine) (task : Task) : Event → Bool
  | .time clock => clock ≤ machine.clock
  | .input pipe => 0 < (machine.pipe pipe).size || !machine.holds (.pipeInlet pipe)
  | .room pipe =>
      (machine.pipe pipe).size < Pipe.capacity || !machine.holds (.pipeOutlet pipe)
  | .ending id => hasEnded machine id
  | .endingOrTime id clock => clock ≤ machine.clock || hasEnded machine id
  | .change ids =>
      task.memory.caught ≠ [] || machine.endings.any fun entry => ids.contains entry.1

def ready? (machine : Machine) (threads : List Thread) : Option Thread :=
  threads.find? fun thread => hasHappened machine thread.task thread.event

def active (pool : Pool) : List Thread :=
  pool.threads.filter fun thread => !pool.stopped.contains thread.task.id

def nextTime? (threads : List Thread) : Option Nat :=
  (threads.filterMap fun thread => match thread.event with
    | .time clock | .endingOrTime _ clock => some clock
    | _ => none).min?

def deliver (pool : Pool) (id signal : Nat) : Pool :=
  match pool.threads.find? (·.task.id = id) with
  | none => pool
  | some thread =>
      let others := pool.threads.filter (·.task.id ≠ id)
      let pool := if signal = Act.resuming || signal = 9 then
        { pool with stopped := pool.stopped.filter (· ≠ id) } else pool
      match Act.effectOn thread.task signal with
      | .nothing => pool
      | .stops => { pool with stopped := id :: pool.stopped }
      | .kills => { pool with threads := others }.bury pool.machine id (.killed signal)
      | .caught =>
          { pool with
            threads := pool.threads.map fun thread =>
              if thread.task.id = id then { thread with task := Act.noting signal thread.task }
              else thread }

/-- One step: a task begins, a signal arrives, a task goes on, or time passes.  Nothing can happen
any more if everybody waits for somebody else. -/
def step (pool : Pool) : Option Pool :=
  let machine := pool.machine
  match machine.newborn, machine.signals with
  | (task, work) :: rest, _ =>
      let state : State := ⟨{ machine with newborn := rest }, task⟩
      some (pool.absorb (work.begin.run state))
  | [], (id, signal) :: rest =>
      some ({ pool with machine := { machine with signals := rest } }.deliver id signal)
  | [], [] =>
      match ready? machine pool.active with
      | some thread =>
          let others := pool.threads.filter (·.task.id ≠ thread.task.id)
          some ({ pool with threads := others }.absorb (thread.resume ⟨machine, thread.task⟩))
      | none =>
          (nextTime? pool.active).map fun clock =>
            { pool with machine := { machine with clock } }

/-- Whether a task has ended and nobody can write to the outside any more. -/
def isOver (pool : Pool) (id : Nat) : Bool :=
  pool.machine.endings.any (·.1 = id) && !pool.machine.holds (.pipeInlet 0)
    && !pool.machine.holds (.pipeInlet 1)

/-- How a task has ended, with the pool as it is then; nothing if that is not in time. -/
def complete (id : Nat) : Nat → Pool → Pool × Option Ending
  | 0, pool => (pool, none)
  | fuel + 1, pool =>
      if pool.isOverdue || pool.machine.deadline.any (· ≤ pool.machine.clock) then (pool, none)
      else if pool.isOver id then (pool, pool.machine.endings.lookup id)
      else match pool.step with
        | some pool => complete id fuel pool
        | none => (pool, none)

end Pool

/-- Why an invocation cannot even be tried. -/
def unfit? (invocation : Invocation) : Option SystemError :=
  let texts := invocation.program :: invocation.directory.toList ++ invocation.arguments
  if texts.any (·.contains 0) then some .nulInArgument
  else if invocation.arguments.any (Image.argumentLimit ≤ ·.length) then some .tooManyArguments
  else none

def workingDirectory (files : FileTree) (directory : Location) :
    Option Path → Except SystemError Location
  | none => .ok directory
  | some path =>
      match files.find directory path with
      | .error error => .error error
      | .ok (_, .file _ _) => .error .notDirectory
      | .ok (location, .directory) => .ok location

def firstTask : Nat := 1000

/-- Milliseconds that go by until a program begins. -/
def startTime : Nat := 1

def surroundings : List (Raw × Raw) :=
  [("PATH".toList, Raw.join [':'] (Image.searchPath.map Raw.ofBytes)),
    ("HOME".toList, "/root".toList)]

/-- The machine with one program that has not begun. -/
def Pool.start (files : FileTree) (directory : Location) (deadline : Option Nat)
    (loaded : Loaded) : Pool :=
  let task : Task :=
    { id := firstTask
      name := loaded.name
      parent := firstTask - 1
      directory
      environment := surroundings
      ignored := []
      mask := 18
      limits := []
      pending := []
      pendingSize := 0
      memory := .blank loaded.name firstTask }
  { machine :=
      { files, deadline
        clock := startTime
        pipes := #[.empty, .empty]
        opened := #[]
        channels := [(firstTask, [(0, .nothing), (1, .pipeInlet 0), (2, .pipeInlet 1)])]
        newborn := [(task, .program loaded)]
        endings := []
        signals := []
        parents := []
        nextTask := firstTask + 1
        effort := 0 }
    threads := []
    stopped := []
    isOverdue := false }

def stepLimit : Nat := 1000000000

/-- What a program gives that has been loaded, within some milliseconds. -/
def outcome (files : FileTree) (directory : Location) (limit : Option Nat) (program : String)
    (loaded : Loaded) : FileTree × Except Failure Output :=
  let (pool, ending) := (Pool.start files directory limit loaded).complete firstTask stepLimit
  let collected (index : Nat) : Bytes := Raw.toBytes (pool.machine.pipe index).content
  let output (exitCode : Option Int) : Except Failure Output :=
    .ok ⟨collected 0, collected 1, exitCode⟩
  let answer := match ending with
    | some (.exited status) => output (some status)
    | some (.killed _) => output none
    | none =>
        match limit with
        | some milliseconds => .error (.timeout (milliseconds / 1000))
        | none => .error (.wait program "the program does not end")
  (pool.machine.files, answer)

def run (files : FileTree) (directory : Location) (invocation : Invocation) (limit : Option Nat) :
    FileTree × Except Failure Output :=
  let program := invocation.programText
  let refused (error : SystemError) : FileTree × Except Failure Output :=
    (files, .error (.spawn program error.message))
  match unfit? invocation with
  | some error => refused error
  | none =>
      match workingDirectory files directory invocation.directory with
      | .error error => refused error
      | .ok directory =>
          let places := Image.searchPath.map Raw.ofBytes
          let name := Raw.ofBytes invocation.program
          let arguments := invocation.arguments.map Raw.ofBytes
          match Image.find files directory places name arguments with
          | .error error => refused error
          | .ok loaded => outcome files directory limit program loaded

/-- The machine as something that runs client programs. -/
def launcher : Launcher Unit where
  run invocation timeout site :=
    let limit := timeout.map (· * 1000)
    let (files, result) := run site.files site.directory invocation limit
    ({ site with files }, result)

end EditorBridge.Host
