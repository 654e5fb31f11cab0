import EditorBridge.Session.Error
import EditorBridge.Session.Event

/-!
# Actions of a session

An action runs in a world of two output streams and a client's state.  It leaves a trace, a world
and a result, and all three also when it fails: what was written before a failure stays written.
-/
namespace EditorBridge

/-- The state that a session acts on. -/
structure World (σ : Type) where
  out : Sink
  err : Sink
  client : σ
  deriving DecidableEq, Repr

namespace World

def sink {σ : Type} (world : World σ) : StreamName → Sink
  | .out => world.out
  | .err => world.err

def setSink {σ : Type} (world : World σ) (stream : StreamName) (sink : Sink) : World σ :=
  match stream with
  | .out => { world with out := sink }
  | .err => { world with err := sink }

end World

/-- What an action leaves behind. -/
structure Outcome (σ α : Type) where
  trace : Trace
  world : World σ
  result : Except BridgeError α

def Outcome.after {σ α : Type} (trace : Trace) (outcome : Outcome σ α) : Outcome σ α :=
  { outcome with trace := trace ++ outcome.trace }

section

variable {σ α : Type} (trace : Trace) (outcome : Outcome σ α)

@[simp] theorem Outcome.trace_after : (outcome.after trace).trace = trace ++ outcome.trace := rfl

@[simp] theorem Outcome.world_after : (outcome.after trace).world = outcome.world := rfl

@[simp] theorem Outcome.result_after : (outcome.after trace).result = outcome.result := rfl

end

/-- An action in the world of a session. -/
def Action (σ α : Type) : Type := World σ → Outcome σ α

namespace Action

variable {σ α β : Type}

def run (action : Action σ α) (world : World σ) : Outcome σ α := action world

/-- Do nothing and yield a value. -/
def done (a : α) : Action σ α := fun world => ⟨[], world, .ok a⟩

def fail (error : BridgeError) : Action σ α := fun world => ⟨[], world, .error error⟩

/-- Fail because a stream has failed. -/
def fault (error : StreamError) : Action σ α := fun world =>
  ⟨[.failed error], world, .error (.stream error)⟩

/-- Go on with what an action yields; a failure ends the sequence. -/
def andThen (action : Action σ α) (next : α → Action σ β) : Action σ β := fun world =>
  let first := action world
  match first.result with
  | .error error => ⟨first.trace, first.world, .error error⟩
  | .ok a =>
      let second := next a first.world
      ⟨first.trace ++ second.trace, second.world, second.result⟩

instance : Monad (Action σ) where
  pure := done
  bind := andThen

/-- Go on after a failure. -/
def orElse (action : Action σ α) (recover : BridgeError → Action σ α) : Action σ α := fun world =>
  let first := action world
  match first.result with
  | .ok a => ⟨first.trace, first.world, .ok a⟩
  | .error error =>
      let second := recover error first.world
      ⟨first.trace ++ second.trace, second.world, second.result⟩

def emit (event : Event) : Action σ Unit := fun world => ⟨[event], world, .ok ()⟩

def log (record : Logging.Record) : Action σ Unit := emit (.logged record)

/-- Write bytes to a stream.  When the stream takes only some of them, those are written and the
action fails. -/
def write (stream : StreamName) (bytes : Bytes) : Action σ Unit := fun world =>
  let sink := world.sink stream
  let taken := sink.taken bytes.length
  let accepted : Trace := if taken = 0 then [] else [.wrote stream (bytes.take taken)]
  let next := world.setSink stream (sink.afterWrite taken)
  if taken < bytes.length then
    ⟨accepted ++ [.failed (.closed stream)], next, .error (.stream (.closed stream))⟩
  else ⟨accepted, next, .ok ()⟩

def writeText (stream : StreamName) (text : String) : Action σ Unit :=
  write stream (Utf8.encode text)

def writeLine (stream : StreamName) (text : String) : Action σ Unit :=
  writeText stream (text ++ "\n")

def flush (stream : StreamName) : Action σ Unit := fun world =>
  let sink := world.sink stream
  let next := world.setSink stream sink.afterFlush
  if sink.flushFails then fault (.unflushed stream) next
  else ⟨[.flushed stream], next, .ok ()⟩

section

variable {action : Action σ α} {next : α → Action σ β} {handler : BridgeError → Action σ α}
  {world : World σ} {a : α} {error : BridgeError}

theorem run_bind_ok (h : (action.run world).result = .ok a) :
    (action >>= next).run world =
      ((next a).run (action.run world).world).after (action.run world).trace := by
  change andThen action next world = _
  simp only [run] at h ⊢
  simp only [andThen, h, Outcome.after]

theorem run_bind_error (h : (action.run world).result = .error error) :
    (action >>= next).run world =
      ⟨(action.run world).trace, (action.run world).world, .error error⟩ := by
  change andThen action next world = _
  simp only [run] at h ⊢
  simp only [andThen, h]

/-- A sequence succeeds only if both its parts do. -/
theorem run_bind_eq_ok {b : β} (h : ((action >>= next).run world).result = .ok b) :
    ∃ a, (action.run world).result = .ok a ∧
      ((next a).run (action.run world).world).result = .ok b ∧
      ((action >>= next).run world).trace =
        (action.run world).trace ++ ((next a).run (action.run world).world).trace := by
  cases first : (action.run world).result with
  | error error =>
    rw [run_bind_error first] at h
    cases h
  | ok a =>
    rw [run_bind_ok first] at h ⊢
    exact ⟨a, rfl, h, rfl⟩

theorem run_orElse_ok (h : (action.run world).result = .ok a) :
    (orElse action handler).run world = action.run world := by
  change orElse action handler world = _
  simp only [run] at h ⊢
  simp only [orElse, h]
  rw [← h]

theorem run_orElse_error (h : (action.run world).result = .error error) :
    (orElse action handler).run world =
      ((handler error).run (action.run world).world).after (action.run world).trace := by
  change orElse action handler world = _
  simp only [run] at h ⊢
  simp only [orElse, h, Outcome.after]

theorem run_bind_bind {γ : Type} (action : Action σ α) (next : α → Action σ β)
    (last : β → Action σ γ) (world : World σ) :
    (action >>= next >>= last).run world = (action >>= fun a => next a >>= last).run world := by
  cases h : (action.run world).result with
  | error error =>
    have stopped : (action >>= next).run world =
        ⟨(action.run world).trace, (action.run world).world, .error error⟩ := run_bind_error h
    rw [run_bind_error (by rw [stopped]), stopped, run_bind_error h]
  | ok a =>
    have begun : (action >>= next).run world =
        ((next a).run (action.run world).world).after (action.run world).trace := run_bind_ok h
    rw [run_bind_ok h]
    cases h' : ((next a).run (action.run world).world).result with
    | error error =>
      rw [run_bind_error (by rw [begun]; exact h'), run_bind_error h', begun]
      rfl
    | ok b =>
      rw [run_bind_ok (by rw [begun]; exact h'), run_bind_ok h', begun]
      simp [Outcome.after]

/-- What has happened stays, whatever comes next. -/
theorem exists_trace_bind (action : Action σ α) (next : α → Action σ β) (world : World σ) :
    ∃ more, ((action >>= next).run world).trace = (action.run world).trace ++ more := by
  cases h : (action.run world).result with
  | error error => exact ⟨[], by rw [run_bind_error h, List.append_nil]⟩
  | ok a => exact ⟨_, by rw [run_bind_ok h]; rfl⟩

theorem exists_trace_orElse (action : Action σ α) (handler : BridgeError → Action σ α)
    (world : World σ) :
    ∃ more, ((orElse action handler).run world).trace = (action.run world).trace ++ more := by
  cases h : (action.run world).result with
  | error error => exact ⟨_, by rw [run_orElse_error h]; rfl⟩
  | ok a => exact ⟨[], by rw [run_orElse_ok h, List.append_nil]⟩

end

end Action

end EditorBridge
