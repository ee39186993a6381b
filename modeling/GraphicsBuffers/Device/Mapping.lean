import GraphicsBuffers.Host
/-!
# Mappings

A mapping makes part of a card's memory addressable. Whoever holds it gives it back by `unmap`.
-/

namespace GraphicsBuffers

/-- A mapping held by the process. -/
structure Mapping where
  /-- The number of the mapping. -/
  id : Nat
  length : UInt64
  deriving DecidableEq

namespace Mapping

/-- The address of the first byte. -/
def address (m : Mapping) : Address := .start m.id

/-- Whether nothing is mapped. -/
def isEmpty (m : Mapping) : Bool := m.length == 0

/-- Maps `length` bytes of a card's memory from `offset` on, shared with every other mapping of
the same memory. -/
def map (fd : Int32) (offset length : UInt64) (writable : Bool) : Attempt MapError Mapping := do
  if length = 0 then throw .emptyLength
  let id ← explain (Host.call (·.map fd offset length writable)) fun e => pure (.failed e)
  return ⟨id, length⟩

/-- Gives the mapping back. A failure is only reported. -/
def unmap (m : Mapping) : HostM Unit := do
  if let .error e ← (Host.call (·.unmap m.id m.length)).run then Host.report (.unmapFailed e)

/-- The most memory that is given at once. -/
def memoryLimit : Nat := 0x1000000000

/-- The outcome of mapping `length` bytes of private memory. -/
def anonymous (length : UInt64) : Except MapError UInt64 :=
  if length = 0 then .error .emptyLength
  else if memoryLimit < length.toNat then .error (.failed .ENOMEM)
  else .ok length

end Mapping

end GraphicsBuffers
