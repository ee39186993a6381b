import GraphicsBuffers.Kernel.Calls
import GraphicsBuffers.Log
/-!
# The host of a process

Everything below buffer objects: the kernel, who holds which open card, the log, and the script
that the scripted backend follows. Operations on it are state computations. One that can fail keeps
the state it reached when it fails, so that a failure leaves its traces.
-/

namespace GraphicsBuffers

/-- What the scripted backend is told to do. -/
structure Script where
  /-- What allocations fail with. -/
  allocateFailure : Option BackendError := none
  /-- What mapping fails with. -/
  mapFailure : Option BackendError := none
  /-- The stride of new buffers, if not the least possible. -/
  stride : Option UInt32 := none
  /-- The memory of new buffers, if not a name equal to the handle. -/
  memory : Option MemoryRef := none
  /-- Whether planes are resolved as those of a linear buffer. -/
  linear : Bool := false
  /-- The handle of the next buffer. -/
  nextHandle : UInt32 := 1

/-- The state below buffer objects. -/
structure Host where
  kernel : Kernel := {}
  /-- How many holders each open card has, by its file descriptor. -/
  cardHolders : Table Int32 Nat := .empty
  script : Script := {}
  /-- What was reported, the newest first. -/
  log : List LogEvent := []

/-- A computation on the host. -/
abbrev HostM := StateM Host

/-- A computation on the host that may fail. -/
abbrev Attempt (ε α : Type) := ExceptT ε HostM α

/-- Turns the failures of a computation into others, which may take effects of its own. -/
def explain {m : Type → Type} [Monad m] {ε δ α : Type} (x : ExceptT ε m α) (f : ε → m δ) :
    ExceptT δ m α :=
  ExceptT.mk do
    match ← x.run with
    | .ok a => return .ok a
    | .error e => return .error (← f e)

namespace Host

/-- Reports an event. -/
def report (event : LogEvent) : HostM Unit :=
  modify fun h => { h with log := event :: h.log }

/-- Makes a system call. -/
def call {ε α : Type} (f : Kernel → Except ε α × Kernel) : Attempt ε α :=
  ExceptT.mk fun h =>
    let (outcome, kernel) := f h.kernel
    (outcome, { h with kernel })

/-- Sends a control request and reads its reply. -/
def exchange {α : Type} (fd : Int32) (x : Wire.Exchange α) : Attempt Errno α := do
  return x.answer (← call (·.control fd x.request x.argument))

/-- Adds an entry to the trace. -/
def record (entry : TraceEntry) : HostM Unit :=
  modify fun h => { h with kernel := h.kernel.record entry }

end Host

end GraphicsBuffers
