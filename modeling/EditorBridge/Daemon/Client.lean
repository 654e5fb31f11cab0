import EditorBridge.Config.Basic
import EditorBridge.Execution.Output
import EditorBridge.Files.Tree
import EditorBridge.Session.Client

/-!
# The client program

The boundary to the daemon (specification, 6) and its scratch file (4.1).

In earnest, a request is one invocation of the configured client program.  Before a check, a scratch
file is made in the project directory, unless there is one already; that it cannot be made is logged
and otherwise ignored.
-/
namespace EditorBridge

open Logging

/-- Where a program runs: the files, the directory it starts from, and whatever runs programs. -/
structure Site (ρ : Type) where
  files : FileTree
  directory : Location
  launcher : ρ
  deriving DecidableEq, Repr

/-- Something that runs programs, and may change the files in doing so. -/
structure Launcher (ρ : Type) where
  run : Execution.Invocation → Option Nat → Site ρ →
    Site ρ × Except Execution.Failure Execution.Output

/-- The failure of a script that has run out of results. -/
def Execution.Failure.noReplyLeft : Execution.Failure := .spawn "script" "no reply left"

/-- A launcher that takes its results from a list, whatever is to be run. -/
def Launcher.scripted : Launcher (List (Except Execution.Failure Execution.Output)) where
  run _ _ site :=
    match site.launcher with
    | [] => (site, .error .noReplyLeft)
    | result :: rest => ({ site with launcher := rest }, result)

namespace Config

def invocation (config : Config) (request : Request) : Execution.Invocation where
  program := Utf8.encode config.program.value
  arguments :=
    (config.programArgs.value ++ ["--status-file", config.statusFile.value]
      ++ request.arguments).map Utf8.encode
  directory := config.projectDir.value

def scratchPath (config : Config) : Path :=
  match config.projectDir.value with
  | some directory => directory.join (Path.ofString Request.scratchFile)
  | none => Path.ofString Request.scratchFile

end Config

namespace ProgramClient

def scratchCreated (path : Path) : Record :=
  ⟨.debug, .client, "Created check scratch file", [.plain "path" path.text]⟩

def scratchFailed (path : Path) (error : Host.SystemError) : Record :=
  ⟨.warn, .client, "Could not create check scratch file",
    [.plain "path" path.text, .plain "error" error.message]⟩

/-- The record of a call about to be made. -/
def invoking (request : Request) (invocation : Execution.Invocation) : Record :=
  ⟨.debug, .client, "Invoking daemon client",
    [.plain "opcode" request.opcode.name, .plain "command" invocation.render]⟩

def finished (request : Request) (output : Execution.Output) : Record :=
  ⟨.debug, .client, "Daemon client finished",
    [.plain "opcode" request.opcode.name, .exitCode output.exitCode, .duration]⟩

def failed (request : Request) (failure : Execution.Failure) : Record :=
  ⟨.warn, .client, "Daemon client failed",
    [.plain "opcode" request.opcode.name, .duration, .plain "error" failure.message]⟩

/-- Make the scratch file, and its directory, where there is nothing at its path. -/
def makeScratch (tree : FileTree) (directory : Location) (path : Path) : FileTree.Changed :=
  let made : FileTree.Changed := match path.parents with
    | [] => (tree, .ok ())
    | parents => tree.makeDirectories directory parents
  match made with
  | (tree, .ok ()) => tree.createFile directory path
  | failed => failed

/-- Make sure that there is a scratch file.  That it is there already is no reason to log. -/
def ensureScratch (tree : FileTree) (directory : Location) (path : Path) :
    FileTree × List ClientEvent :=
  if tree.pathExists directory path then (tree, [])
  else match makeScratch tree directory path with
    | (tree, .ok ()) => (tree, [.logged (scratchCreated path)])
    | (tree, .error error) =>
        (tree, if error = .alreadyThere then [] else [.logged (scratchFailed path error)])

/-- What is done before the client program is invoked. -/
def prepare {ρ : Type} (config : Config) (request : Request) (site : Site ρ) :
    Site ρ × List ClientEvent :=
  match request with
  | .check =>
      let (files, trace) := ensureScratch site.files site.directory config.scratchPath
      ({ site with files }, trace)
  | _ => (site, [])

def invoke {ρ : Type} (launcher : Launcher ρ) (config : Config) (request : Request)
    (site : Site ρ) : Answer (Site ρ) :=
  let (site, prepared) := prepare config request site
  let invocation := config.invocation request
  let scratchExists := site.files.pathExists site.directory config.scratchPath
  let (site, result) := launcher.run invocation config.timeoutSecs.value site
  let trace := prepared ++ [.logged (invoking request invocation),
    .spawned invocation config.timeoutSecs.value scratchExists]
  match result with
  | .ok output => ⟨trace ++ [.logged (finished request output)], site, .ok (.ofOutput output)⟩
  | .error failure =>
      ⟨trace ++ [.logged (failed request failure)], site,
        .error (.ofProcess request.opcode failure)⟩

end ProgramClient

def Client.program {ρ : Type} (launcher : Launcher ρ) (config : Config) : Client (Site ρ) where
  invoke := ProgramClient.invoke launcher config

end EditorBridge
