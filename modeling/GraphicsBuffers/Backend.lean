import GraphicsBuffers.Device.Card
/-!
# Backends

A backend knows how one family of devices allocates, frees and maps memory. Buffer objects reach
the hardware only through the operations of a `Backend`, and hand back to it the `BackendBuffer` it
gave them. The operations may be any computations on the host, so what is proved of buffer objects
over an arbitrary backend relies on none of its workings.
-/

namespace GraphicsBuffers

/-- What a backend keeps of an allocated or opened buffer. -/
structure BackendBuffer where
  /-- The handle on the card. -/
  handle : UInt32
  /-- Bytes of memory. -/
  size : UInt64
  /-- Bytes from one line of the first plane to the next. -/
  stride : UInt32
  /-- The identity under which a new buffer is published. -/
  memory : MemoryRef
  /-- Whether the memory was opened by reference rather than allocated. -/
  imported : Bool
  /-- The mapping of the buffer, if it has one. -/
  mapping : Option Mapping := none
  /-- How many maps the mapping serves. -/
  mapCount : UInt32 := 0
  deriving DecidableEq

/-- The operations of a backend. -/
structure Backend where
  name : String
  /-- Allocates memory for a descriptor, or opens the memory that it already names. -/
  allocate : Descriptor → Attempt BackendError BackendBuffer
  /-- Gives back the memory of a buffer and whatever mapping is left of it. -/
  free : BackendBuffer → HostM Unit
  /-- Makes a buffer accessible, for writing too if asked, and answers the address of its first
  byte. -/
  map : Region → Bool → ExceptT BackendError (StateT BackendBuffer HostM) Address
  /-- Balances one successful map. -/
  unmap : StateT BackendBuffer HostM Unit
  /-- The planes of a buffer of several planes, if the backend knows them. -/
  planes : Host → BackendBuffer → Descriptor → Option PlaneLayout := fun _ _ _ => none

end GraphicsBuffers
