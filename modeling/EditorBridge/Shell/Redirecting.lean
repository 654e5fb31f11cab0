import EditorBridge.Shell.Expansion

/-!
# Redirections

All targets are expanded before anything is opened; then the descriptors are led elsewhere one after
another.  What they led to before is remembered, so that they can be led back.
-/
namespace EditorBridge.Shell

open Host Act

inductive Target where
  | file (descriptor : Nat) (access : Access) (path : Raw)
  /-- Lead where another descriptor leads, or nowhere. -/
  | copy (descriptor : Nat) (source : Option Nat)
  | text (descriptor : Nat) (content : Word)

namespace Target

def descriptor : Target → Nat
  | file descriptor _ _ | copy descriptor _ | text descriptor _ => descriptor

end Target

def expandTarget : Redirection → Act Target
  | .file descriptor access target => return .file descriptor access (← expandText .single target)
  | .copy descriptor target => do
      match ← expandText .single target with
      | ['-'] => return .copy descriptor none
      | [c] =>
          if c.isDigit then return .copy descriptor (some (c.toNat - '0'.toNat))
          else fail "Syntax error: Bad fd number".toList
      | _ => fail "Syntax error: Bad fd number".toList
  | .text descriptor number =>
      return .text descriptor (((← memory).texts.lookup number).getD [])

def expandTargets : List Redirection → Act (List Target)
  | [] => return []
  | redirection :: rest => do
      let first ← expandTarget redirection
      return first :: (← expandTargets rest)

/-- Why a file cannot be opened, as complaints have it. -/
def openingFault (writes : Bool) (error : SystemError) : Raw :=
  if error = .noEntry || error = .notDirectory then
    (if writes then "Directory nonexistent" else "No such file").toList
  else match error with
    | .number n => (SystemError.text n).toList
    | error => error.message.toList

/-- Open a file, or complain and give up. -/
def openOrFail (access : Access) (path : Raw) : Act Channel := do
  let writes := match access with
    | .read => false
    | _ => true
  let refuse {α : Type} (error : SystemError) : Act α :=
    fail ((if writes then "cannot create " else "cannot open ").toList ++ path ++ ": ".toList ++
      openingFault writes error)
  let isThere := (← machine).files.isFile (← task).directory (Raw.toBytes path)
  let spares := (← memory).isOn 'C'
  match access with
  | .write => if spares && isThere then refuse .alreadyThere
  | _ => pure ()
  match ← openPath path access with
  | .ok channel => return channel
  | .error error => refuse error

def lead : Target → Act Unit
  | .file descriptor access path => do
      setChannel descriptor (some (← openOrFail access path))
  | .copy descriptor none => setChannel descriptor none
  | .copy descriptor (some source) => do
      if source ≠ descriptor then
        match ← channel? source with
        | some channel => setChannel descriptor (some channel)
        | none => fail (Raw.ofNat source ++ ": Bad file descriptor".toList)
  | .text descriptor content => do
      let pipe ← newPipe (Stretch.text (← expandParts .bare true content))
      setChannel descriptor (some (.pipeOutlet pipe))

/-- Lead descriptors elsewhere, one after another. -/
def leadAll : List Target → Act Unit
  | [] => return ()
  | target :: rest => do
      lead target
      leadAll rest

/-- Where the descriptors of some targets lead now. -/
def formerChannels (targets : List Target) : Act (List (Nat × Option Channel)) := do
  let table ← channels
  return targets.map fun target => (target.descriptor, table.lookup target.descriptor)

def leadBack : List (Nat × Option Channel) → Act Unit
  | [] => return ()
  | (descriptor, channel) :: rest => do
      setChannel descriptor channel
      leadBack rest

/-- Lead descriptors elsewhere, and tell whether that was possible. -/
def tryLead (targets : List Target) : Act Bool :=
  tryCatch (do leadAll targets; return true) fun stop => match stop with
    | .failed => return false
    | stop => throw stop

end EditorBridge.Shell
