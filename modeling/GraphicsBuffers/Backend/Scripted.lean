import GraphicsBuffers.Backend
/-!
# The scripted backend

A backend without hardware, for trying out what is built on backends. It follows the host's
`Script`: which calls fail and with what, and which stride and memory new buffers get. Every call
is recorded in the trace. The plain variant does not resolve planes.
-/

namespace GraphicsBuffers

namespace Scripted

/-- Records a call. -/
def record (call : BackendCall) : HostM Unit := Host.record (.backend call)

/-- Takes the next handle. -/
def takeHandle : HostM UInt32 := do
  let handle := (← get).script.nextHandle
  modify fun h => { h with script := { h.script with nextHandle := handle + 1 } }
  return handle

/-- Accepts the memory that a descriptor names, and makes up memory for one that names none. -/
def allocate (d : Descriptor) : Attempt BackendError BackendBuffer := do
  record (.allocate d)
  let script := (← get).script
  if let some e := script.allocateFailure then throw e
  let some g := d.format.geometry? d.width d.height | throw .outOfMemory
  let some stride := (match d.key? with
    | some _ => some d.stride
    | none => script.stride <|> g.minStride? d.format) | throw .outOfMemory
  let some size := g.size? stride | throw .outOfMemory
  let handle ← takeHandle
  let (memory, imported) := match d.key? with
    | some memory => (memory, true)
    | none => (script.memory.getD (.name handle), false)
  return { handle, size := size.toUInt64, stride, memory, imported }

/-- Records that a buffer is given back, and how many maps of it are left. -/
def free (b : BackendBuffer) : HostM Unit := record (.free b.handle b.mapCount)

/-- The address a buffer is mapped at. -/
def addressOf (handle : UInt32) : Address := .number (handle.toUInt64 * 0x10000000)

/-- Counts a map. -/
def map (region : Region) (write : Bool) :
    ExceptT BackendError (StateT BackendBuffer HostM) Address := do
  let b ← get
  record (.map b.handle region write)
  if let some e := (← getThe Host).script.mapFailure then throw e
  set { b with mapCount := b.mapCount + 1 }
  return addressOf b.handle

/-- Takes a map off the count. -/
def unmap : StateT BackendBuffer HostM Unit := do
  let b ← get
  record (.unmap b.handle)
  set { b with mapCount := if b.mapCount = 0 then 0 else b.mapCount - 1 }

end Scripted

/-- The scripted backend, which resolves planes if its script says so. -/
def Backend.scripted : Backend where
  name := "mock"
  allocate := Scripted.allocate
  free := Scripted.free
  map := Scripted.map
  unmap := Scripted.unmap
  planes h b d := if h.script.linear then d.linearPlanes? b.handle else none

/-- The scripted backend without planes of its own. -/
def Backend.plain : Backend :=
  { Backend.scripted with name := "plain", planes := fun _ _ _ => none }

end GraphicsBuffers
