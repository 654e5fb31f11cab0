import EditorBridge.Host.Run
import EditorBridge.Program.Clock
import EditorBridge.Program.Run

/-!
# The bridge as a program

Arguments, environment and standard streams are those of the process.  Client programs run on a
fresh machine of this library, whose working directory holds a copy of the configuration file of
the process's own, if there is one.  Each line is answered as soon as it has been read.
-/
namespace EditorBridge.Program

def toArray (bytes : Bytes) : ByteArray := ⟨bytes.toArray⟩

/-- Show what happened on the standard streams. -/
def display (around : Surroundings) (config : Config) (trace : Trace) : IO Unit := do
  let out ← IO.getStdout
  let err ← IO.getStderr
  for event in trace do
    match event with
    | .wrote .out bytes => out.write (toArray bytes)
    | .flushed .out => out.flush
    | event => err.write (toArray (shown around config event))
  err.flush

def atPresent (around : Surroundings) : IO Surroundings := do
  let time := timeOfDay ((← IO.monoNanosNow) / 1000)
  return { around with clock := fun _ => time, stamp := time }

/-- Read, answer and show line after line, until the input or the session ends. -/
partial def converse {ρ : Type} (client : Client (Site ρ)) (around : Surroundings) (config : Config)
    (world : World (Site ρ)) (handled : Nat) (pending : Bytes) : IO ExitStatus := do
  let received ← (← IO.getStdin).read 4096
  let pieces := Input.pieces (pending ++ received.toList)
  let complete := if received.isEmpty then pieces else pieces.filter Input.terminated
  let rest := if received.isEmpty then [] else pieces.filter (!Input.terminated ·)
  let mut world := world
  let mut handled := handled
  for piece in complete do
    let around ← atPresent around
    let outcome := (Session.takeTurn client around.clock none handled piece).run world
    display around config outcome.trace
    match outcome.result with
    | .error error => do
        (← IO.getStderr).write (toArray (closing around config error))
        return error.exitStatus
    | .ok () => pure ()
    world := outcome.world
    handled := handled + 1
  if received.isEmpty then
    display around config [.logged (Session.inputClosed handled)]
    return .success
  else converse client around config world handled rest.flatten

/-- The configuration file in the working directory of the process, if it can be read. -/
def ownConfiguration : IO (Option Bytes) := do
  try
    return some (← IO.FS.readBinFile Config.fileName).toList
  catch _ => return none

def workplace : Location := [Utf8.encode "work"]

def freshSite : IO (Site Unit) := do
  let tree := (Host.Image.install .empty).put workplace .directory
  let tree := match ← ownConfiguration with
    | some content => tree.put (workplace ++ [Utf8.encode Config.fileName]) (.file content false)
    | none => tree
  return ⟨tree, workplace, ()⟩

def runInProcess (arguments : List String) : IO ExitStatus := do
  let filter ← IO.getEnv "RUST_LOG"
  let around ← atPresent ⟨Host.Image.searchPath, filter, fun _ => "", "", "0"⟩
  let site ← freshSite
  match begin site (arguments.map Utf8.encode) with
  | .over result => do
      (← IO.getStdout).write (toArray result.stdout)
      (← IO.getStderr).write (toArray result.stderr)
      return result.status
  | .serving config => do
      (← IO.getStderr).write (toArray (opening around config site))
      converse (Client.program Host.launcher config) around config ⟨.healthy, .healthy, site⟩ 0 []

end EditorBridge.Program

/-- The exit status of the process is that of the bridge. -/
def main (arguments : List String) : IO UInt32 := do
  return UInt32.ofNat (← EditorBridge.Program.runInProcess arguments).number
