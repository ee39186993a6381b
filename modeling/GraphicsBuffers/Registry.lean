import GraphicsBuffers.Process
/-!
# The registry

Which buffer objects a process knows, by the key of their memory, and how many references its
callers have to each. The registry is one of the holders of every object in it.
-/

namespace GraphicsBuffers

/-- A registered object and the references to it. The count has no bound here. Where it is kept in a
word of 64 bits, it comes round once 2^64 references to one object are outstanding. -/
structure Registration where
  object : ObjectId
  references : Nat
  deriving DecidableEq

/-- The registered objects by their keys. -/
structure Registry where
  entries : Table MemoryRef Registration := .empty
  deriving DecidableEq

/-- A computation on a registry in a process. -/
abbrev RegistryM := StateT Registry ProcessM

namespace Registry

/-- The object registered under a key. -/
def get? (r : Registry) (key : MemoryRef) : Option ObjectId :=
  (r.entries.get? key).map (·.object)

/-- Whether an object is registered under a key. -/
def contains (r : Registry) (key : MemoryRef) : Bool := r.entries.contains key

/-- The references to the object registered under a key. -/
def references? (r : Registry) (key : MemoryRef) : Option Nat :=
  (r.entries.get? key).map (·.references)

/-- The number of registered objects. -/
def size (r : Registry) : Nat := r.entries.size

/-- Registers an object under the key of its memory, with a single reference, and answers the key.
The caller's hold on the object passes to the registry, or is let go if the object has no key or
the key is taken. -/
def insert (id : ObjectId) : ExceptT Error RegistryM MemoryRef := do
  let some key := ((← getThe Process).object? id).bind (·.descriptor.key?)
    | do
      Process.release id
      throw .invalidHandle
  if (← getThe Registry).contains key then
    Host.report (.alreadyRegistered key)
    Process.release id
    throw .invalidHandle
  modifyThe Registry fun r => ⟨r.entries.insert key ⟨id, 1⟩⟩
  return key

/-- Adds a reference to the object registered under a key. -/
def acquire (key : MemoryRef) : RegistryM (Option ObjectId) := do
  match (← getThe Registry).entries.get? key with
  | none => return none
  | some e =>
    modifyThe Registry fun r => ⟨r.entries.insert key { e with references := e.references + 1 }⟩
    return some e.object

/-- Takes `count` references away from the object registered under a key. When none is left the
object is destroyed and forgotten. Answers whether it was. -/
def release (key : MemoryRef) (count : Nat) : ExceptT Error RegistryM Bool := do
  let some e := (← getThe Registry).entries.get? key | throw .invalidHandle
  let left := e.references - count
  if 0 < left then
    modifyThe Registry fun r => ⟨r.entries.insert key { e with references := left }⟩
    return false
  modifyThe Registry fun r => ⟨r.entries.erase key⟩
  let _ ← Process.onObject e.object BufferObject.destroy
  Host.report (.unregistered key)
  Process.release e.object
  return true

/-- Lets go of every registered object, those under the keys given first. The registry knows of no
order, and any can be given (`Table.arranged_of_perm`). -/
def clear (order : List MemoryRef) : RegistryM Unit := do
  let r ← getThe Registry
  set ({} : Registry)
  (r.entries.arranged order).forM fun e => Process.release e.2.object

end Registry

end GraphicsBuffers
