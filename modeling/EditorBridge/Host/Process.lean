/-!
# Processes that wait

A process is what is left of it to do: it comes to an end with a result, or it waits for an event
and goes on from the state in which the event finds it.  Between two waits nothing else happens, so
that a process may look at the state and change it without minding the others.
-/
namespace EditorBridge.Host

inductive Event where
  /-- A time on the clock. -/
  | time (clock : Nat)
  /-- Bytes in a pipe, or the end of them because nobody can write. -/
  | input (pipe : Nat)
  /-- Room in a pipe, or the end of it because nobody can read. -/
  | room (pipe : Nat)
  /-- The end of a process. -/
  | ending (process : Nat)
  /-- The end of a process, or a time on the clock. -/
  | endingOrTime (process clock : Nat)
  /-- The end of any of some processes, or a signal. -/
  | change (processes : List Nat)
  deriving DecidableEq, Repr

/-- What is left to do, over some state, with reasons to stop before the end. -/
inductive Process (σ ε α : Type) where
  | ended (result : Except ε α) (state : σ)
  | waiting (event : Event) (state : σ) (resume : σ → Process σ ε α)

namespace Process

variable {σ ε α β γ : Type}

/-- Go on with a result, unless there is a reason to stop. -/
def bind (next : α → σ → Process σ ε β) : Process σ ε α → Process σ ε β
  | ended (.ok value) state => next value state
  | ended (.error reason) state => ended (.error reason) state
  | waiting event state resume => waiting event state fun state => (resume state).bind next

/-- Go on after a reason to stop. -/
def rescue (next : ε → σ → Process σ ε α) : Process σ ε α → Process σ ε α
  | ended (.ok value) state => ended (.ok value) state
  | ended (.error reason) state => next reason state
  | waiting event state resume => waiting event state fun state => (resume state).rescue next

end Process

def ProcessT (σ ε α : Type) : Type := σ → Process σ ε α

namespace ProcessT

variable {σ ε α : Type}

def run (action : ProcessT σ ε α) (state : σ) : Process σ ε α := action state

def await (event : Event) : ProcessT σ ε Unit := fun state =>
  .waiting event state fun state => .ended (.ok ()) state

instance : Monad (ProcessT σ ε) where
  pure value := fun state => .ended (.ok value) state
  bind action next := fun state => (action state).bind next

instance : MonadStateOf σ (ProcessT σ ε) where
  get := fun state => .ended (.ok state) state
  set state := fun _ => .ended (.ok ()) state
  modifyGet change := fun state => .ended (.ok (change state).1) (change state).2

instance : MonadExceptOf ε (ProcessT σ ε) where
  throw reason := fun state => .ended (.error reason) state
  tryCatch action handler := fun state => (action state).rescue handler

end ProcessT

end EditorBridge.Host
