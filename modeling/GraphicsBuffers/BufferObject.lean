import GraphicsBuffers.Backend
/-!
# Buffer objects

A buffer object binds a descriptor to the memory behind it. It is created by allocating memory, and
then owns what its descriptor names, or imported from a descriptor that another process made and
remains responsible for. Its state is the backend's buffer until it is destroyed, the outstanding
locks with the union of their usages, and the framebuffer over it.

Operations on one object are computations on the object over the host; an object that fails to come
to life leaves nothing behind.
-/

namespace GraphicsBuffers

/-- A buffer object. -/
structure BufferObject where
  descriptor : Descriptor
  /-- Whether the descriptor was received from another process. -/
  imported : Bool
  backend : Backend
  card : Card
  /-- The backend's buffer; none once the object is destroyed. -/
  buffer : Option BackendBuffer
  /-- The number of outstanding locks. -/
  lockCount : UInt32 := 0
  /-- All flags of the outstanding locks. -/
  lockedFor : Usage := .empty
  /-- The framebuffer over the memory. -/
  framebuffer : Option UInt32 := none

/-- A computation on one object over the host. -/
abbrev ObjectM := StateT BufferObject HostM

namespace BufferObject

/-- Whether the memory has been given back. -/
def isDestroyed (o : BufferObject) : Bool := o.buffer.isNone

/-- Pixels from one line to the next. -/
def pixelStride (o : BufferObject) : UInt32 :=
  o.descriptor.stride / o.descriptor.format.bytesPerPixel

/-- The planes of the memory as the backend describes them. -/
def planes? (o : BufferObject) (h : Host) : Option PlaneLayout := do
  o.backend.planes h (← o.buffer) o.descriptor

/-! ## Scanout -/

/-- Creates a framebuffer over the buffer, or answers the one it has. -/
def attachFramebuffer : ExceptT Error ObjectM UInt32 := do
  let o ← get
  if let some id := o.framebuffer then return id
  let some buffer := o.buffer | throw .invalidHandle
  let layout := (o.backend.planes (← getThe Host) buffer o.descriptor).getD
    (.single buffer.handle o.descriptor.stride)
  let d := o.descriptor
  let add : Attempt Error UInt32 :=
    explain (Host.exchange o.card.fd (.addFb2 d.width d.height d.format.fourcc layout)) fun e => do
      Host.report (.framebufferFailed e)
      return .kernel e
  let id ← ExceptT.mk (StateT.lift add.run)
  Host.report (.framebufferAttached id d.memory)
  set { o with framebuffer := some id }
  return id

/-- Removes the framebuffer, if there is one. -/
def detachFramebuffer : ObjectM Unit := do
  let o ← get
  if let some id := o.framebuffer then
    set { o with framebuffer := none }
    if let .error e ← StateT.lift (Host.exchange o.card.fd (.removeFb id)).run then
      Host.report (.framebufferRemovalFailed id e)

/-! ## Destruction -/

/-- Closes the file descriptor that an allocated buffer's descriptor names. -/
def closeOwnedMemory (o : BufferObject) : HostM Unit := do
  if !o.imported then
    if let some (.prime fd) := o.descriptor.key? then
      if let .error e ← (Host.call (·.close fd)).run then
        Host.report (.dmaBufCloseFailed fd e)

/-- Drops the outstanding locks. -/
def dropLocks : ObjectM Unit := do
  let o ← get
  if 0 < o.lockCount then
    Host.report (.destroyedWhileLocked o.descriptor.memory o.lockCount)
    set { o with lockCount := 0, lockedFor := .empty }

/-- Removes the framebuffer, gives back the memory, and for an allocated buffer what its descriptor
names. Does nothing to an object that is destroyed already. -/
def destroy : ObjectM Unit := do
  let o ← get
  if let some buffer := o.buffer then
    set { o with buffer := none }
    dropLocks
    detachFramebuffer
    o.backend.free buffer
    o.closeOwnedMemory
    Host.report (.destroyed o.descriptor.memory)

/-! ## Coming to life -/

/-- What a failed allocation is to callers. -/
def allocationError : BackendError → Error
  | .outOfMemory => .outOfMemory
  | e => .backend e

/-- Allocates a buffer. One that is to be scanned out gets its framebuffer too, or is destroyed
again. -/
def create (backend : Backend) (card : Card) (width height : UInt32) (format : PixelFormat)
    (usage : Usage) : Attempt Error BufferObject := do
  let some g := (format.geometry? width height).filter fun g => (g.minSize? format).isSome
    | do
      Host.report (.tooLarge width height format)
      throw .outOfMemory
  let request : Descriptor := { width, height, planarHeight := g.planarHeight, format, usage }
  let buffer ← explain (backend.allocate request) fun e => do
    Host.report (.allocationFailed width height format e)
    return allocationError e
  if !buffer.memory.isValid then
    Host.report (.invalidMemory backend.name buffer.memory)
    backend.free buffer
    throw .invalidHandle
  let descriptor := request.withMemory buffer.memory buffer.stride
  Host.report (.created width height format buffer.memory descriptor.stride)
  let object : BufferObject :=
    { descriptor, imported := false, backend, card, buffer := some buffer }
  if usage.needsFramebuffer then
    match ← attachFramebuffer.run.run object with
    | (.ok _, object) => return object
    | (.error e, object) =>
      let _ ← destroy.run object
      throw e
  return object

/-- Opens the memory that a received descriptor names. -/
def importFrom (backend : Backend) (card : Card) (d : Descriptor) : Attempt Error BufferObject := do
  if !d.isValid then throw .invalidHandle
  if d.byteSize?.isNone then
    Host.report (.importTooLarge d)
    throw .invalidHandle
  let buffer ← explain (backend.allocate d) fun e => do
    Host.report (.importFailed d.memory e)
    return allocationError e
  Host.report (.imported d.memory)
  return { descriptor := d, imported := true, backend, card, buffer := some buffer }

end BufferObject

end GraphicsBuffers
