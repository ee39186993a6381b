import GraphicsBuffers.Backend
/-!
# The dumb-buffer backend

Every display driver can allocate dumb buffers: linear memory that the processor maps. A new buffer
is published under a global name; a received one is opened by its name or its file descriptor. A
buffer is mapped once as a whole, for reading and writing, and nested maps share that mapping.
-/

namespace GraphicsBuffers

open Wire

namespace Dumb

variable (fd : Int32)

/-- Opens the object of a global name and answers its handle and size. -/
def openName (name : UInt32) : Attempt BackendError (UInt32 × UInt64) := do
  let object ← explain (Host.exchange fd (.gemOpen name)) fun e => pure (.control e)
  return (object.handle, object.size)

/-- The size of a dma-buf: the offset of its end, or what the descriptor covers where the exporter
does not support seeking or the offset is not positive. -/
def dmaBufSize (d : Descriptor) (dmabuf : Int32) : Attempt BackendError UInt64 := do
  let covered : Attempt BackendError UInt64 :=
    match d.byteSize? with
    | some size => return size.toUInt64
    | none => throw .outOfMemory
  match ← (Host.call (·.seekEnd dmabuf)).run with
  | .ok offset => if 0 < offset then return offset.toUInt64 else covered
  | .error _ => covered

/-- Opens the memory of a file descriptor and answers its handle and size. -/
def openPrime (d : Descriptor) (dmabuf : Int32) : Attempt BackendError (UInt32 × UInt64) := do
  explain (Host.call (·.descriptorFlags dmabuf)) fun e => do
    Host.report (.invalidDmaBuf dmabuf e)
    return .control e
  let size ← dmaBufSize d dmabuf
  let handle ← explain (Host.exchange fd (.primeFdToHandle dmabuf)) fun e => pure (.control e)
  return (handle, size)

/-- Opens the memory that a descriptor names. -/
def openMemory (d : Descriptor) (memory : MemoryRef) : Attempt BackendError BackendBuffer := do
  let (handle, size) ← match memory with
    | .name n => openName fd n
    | .prime dmabuf => openPrime fd d dmabuf
  Host.report (.objectOpened memory handle)
  return { handle, size, stride := d.stride, memory, imported := true }

/-- Gives back a buffer that could not be named. -/
def discard (handle : UInt32) : HostM Unit := do
  if let .error e ← (Host.exchange fd (.destroyDumb handle)).run then
    Host.report (.destroyFailed handle e)

/-- Allocates memory and publishes it under a global name. -/
def create (d : Descriptor) : Attempt BackendError BackendBuffer := do
  let some g := d.format.geometry? d.width d.height | throw .outOfMemory
  let dumb ← explain
    (Host.exchange fd (.createDumb g.width g.height (d.format.bytesPerPixel * 8)))
    fun e => pure (.control e)
  let name ← explain (Host.exchange fd (.gemFlink dumb.handle)) fun e => do
    Host.report (.namingFailed dumb.handle e)
    discard fd dumb.handle
    return .control e
  return {
    handle := dumb.handle, size := dumb.size, stride := dumb.pitch, memory := .name name
    imported := false }

/-- Opens the memory of a descriptor that names some, and allocates for one that does not. -/
def allocate (d : Descriptor) : Attempt BackendError BackendBuffer :=
  match d.key? with
  | some memory => openMemory fd d memory
  | none => create fd d

/-- Gives back the handle of a buffer: an opened one is closed, an allocated one destroyed. -/
def freeHandle (b : BackendBuffer) : HostM Unit := do
  let exchange := if b.imported then Exchange.gemClose b.handle else .destroyDumb b.handle
  if let .error e ← (Host.exchange fd exchange).run then
    Host.report (.freeFailed b.handle e)

/-- Gives back a buffer, its mapping first. -/
def free (b : BackendBuffer) : HostM Unit := do
  if let some mapping := b.mapping then mapping.unmap
  freeHandle fd b

/-- Maps a whole buffer. -/
def mapWhole (b : BackendBuffer) : Attempt BackendError Mapping := do
  let offset ← explain (Host.exchange fd (.mapDumb b.handle)) fun e => pure (.control e)
  explain (Mapping.map fd offset b.size true) fun e => pure (.mapping e)

/-- Maps a buffer, or shares the mapping it has. -/
def map : ExceptT BackendError (StateT BackendBuffer HostM) Address := do
  let b ← get
  match b.mapping with
  | some mapping =>
    set { b with mapCount := b.mapCount + 1 }
    return mapping.address
  | none =>
    let mapping ← ExceptT.mk (StateT.lift (mapWhole fd b).run)
    set { b with mapping := some mapping, mapCount := b.mapCount + 1 }
    return mapping.address

/-- Balances one map; the last one gives the mapping back. -/
def unmap : StateT BackendBuffer HostM Unit := do
  let b ← get
  if b.mapCount = 0 then return
  else if b.mapCount = 1 then
    set { b with mapCount := 0, mapping := none }
    if let some mapping := b.mapping then mapping.unmap
  else set { b with mapCount := b.mapCount - 1 }

end Dumb

/-- The dumb-buffer backend on an open card. -/
def Backend.dumb (fd : Int32) : Backend where
  name := "dumb"
  allocate := Dumb.allocate fd
  free := Dumb.free fd
  map _ _ := Dumb.map fd
  unmap := Dumb.unmap
  planes _ b d := d.linearPlanes? b.handle

end GraphicsBuffers
