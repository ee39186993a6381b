import GraphicsBuffers.BufferObject
/-!
# Locks

A buffer is locked for a usage before the processor or the hardware touches it, and unlocked
afterwards. Locks nest: while a buffer is locked it can be locked again for a subset of what it is
locked for. The memory is mapped for every lock that includes software access, and every unlock
balances one lock.
-/

namespace GraphicsBuffers

namespace BufferObject

/-- Whether the declared usage of a buffer permits a lock for `usage`. -/
def permits (declared usage : Usage) : Bool := declared.contains usage || declared.allowsAnyLock

/-- Maps the memory for a lock. -/
def mapForLock (o : BufferObject) (buffer : BackendBuffer) (usage : Usage) (region : Region) :
    ExceptT Error ObjectM Address := do
  let mapped : ObjectM (Except BackendError Address × BackendBuffer) :=
    StateT.lift ((o.backend.map region usage.swWrite).run.run buffer)
  let (outcome, buffer) ← mapped
  set { o with buffer := some buffer }
  match outcome with
  | .ok address => return address
  | .error e =>
    Host.report (.mapFailed o.descriptor.memory e)
    throw (.backend e)

/-- Locks a buffer. Answers the address of its memory if the lock, or a lock already held, includes
software access. -/
def lock (usage : Usage) (region : Region) : ExceptT Error ObjectM (Option Address) := do
  let o ← get
  let declared := o.descriptor.usage
  if !permits declared usage then
    Host.report (.undeclaredUsage usage declared)
    throw (.usageMismatch declared usage)
  if 0 < o.lockCount && !o.lockedFor.contains usage then
    Host.report (.alreadyLocked o.lockedFor usage)
    throw (.incompatibleLock o.lockedFor usage)
  let usage := usage ||| o.lockedFor
  let some buffer := o.buffer | throw .invalidHandle
  let address ←
    if usage.swAccess then some <$> mapForLock o buffer usage region else pure none
  let count := o.lockCount + 1
  modify fun o => { o with lockCount := count, lockedFor := o.lockedFor ||| usage }
  Host.report (.locked o.descriptor.memory usage region count)
  return address

/-- Balances one lock. Does nothing to a buffer that is not locked. -/
def unlock : ObjectM Unit := do
  let o ← get
  if o.lockCount = 0 then return
  if o.lockedFor.swAccess then
    if let some buffer := o.buffer then
      let (_, buffer) ← StateT.lift (o.backend.unmap.run buffer)
      set { o with buffer := some buffer }
  modify fun o =>
    { o with
      lockCount := o.lockCount - 1
      lockedFor := if o.lockCount = 1 then .empty else o.lockedFor }

/-- Locks a buffer with interleaved chroma for software access, and answers where its samples
are. -/
def lockPlanar (usage : Usage) (region : Region) : ExceptT Error ObjectM Ycbcr := do
  let d := (← get).descriptor
  if d.format ≠ .ycbcr420 then throw (.invalidFormat d.format.raw)
  if !usage.swAccess then throw (.usageMismatch d.usage usage)
  match ← lock usage region with
  | some address => return .at address d.stride d.planarHeight
  | none => throw (.usageMismatch d.usage usage)

end BufferObject

end GraphicsBuffers
