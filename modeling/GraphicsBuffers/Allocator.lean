import GraphicsBuffers.Context
import GraphicsBuffers.Registry
/-!
# The allocator

What callers see: a device context and the registry of the buffers in use. Buffers are designated
by their descriptors. The process that creates a buffer can use its descriptor right away; another
one registers it first. Every registration is to be balanced by an unregistration, and the creator
drops its own reference once.
-/

namespace GraphicsBuffers

/-- An allocator. -/
structure Allocator where
  context : Context
  registry : Registry := {}

/-- A computation on an allocator in a process. -/
abbrev AllocatorM := StateT Allocator ProcessM

namespace Allocator

/-- An allocator on the card of a configuration, served by the standard backends. The card is only
opened when first needed. -/
def ofConfig (config : DeviceConfig) : Allocator where
  context := { opener := (Opener.ofConfig config).reporting, table := .standard }

/-! ## The parts -/

/-- Runs a computation on the context. -/
def onContext {ε α : Type} (x : ExceptT ε ContextM α) : ExceptT ε AllocatorM α :=
  ExceptT.mk fun a p =>
    let ((outcome, context), host) := x.run.run a.context p.host
    ((outcome, { a with context }), { p with host })

/-- Runs a computation on the registry. -/
def onRegistry {α : Type} (x : RegistryM α) : AllocatorM α := fun a p =>
  let ((outcome, registry), p) := x.run a.registry p
  ((outcome, { a with registry }), p)

/-- Runs a computation on the registry that may fail. -/
def tryRegistry {ε α : Type} (x : ExceptT ε RegistryM α) : ExceptT ε AllocatorM α :=
  ExceptT.mk (onRegistry x.run)

/-- Runs a computation that may fail on the host. -/
def attempt {ε α : Type} (x : Attempt ε α) : ExceptT ε AllocatorM α :=
  ExceptT.mk (StateT.lift (Process.attempt x).run)

/-- The key of a descriptor. -/
def keyOf (d : Descriptor) : Except Error MemoryRef :=
  match d.key? with
  | some key => .ok key
  | none => .error .invalidHandle

/-- The registered object that a descriptor designates. -/
def lookup (a : Allocator) (d : Descriptor) : Except Error ObjectId := do
  let key ← keyOf d
  match a.registry.get? key with
  | some id => .ok id
  | none => .error .invalidHandle

/-! ## Buffers -/

/-- Registers a new object, which the registry holds from now on. -/
def adopt (object : BufferObject) : ExceptT Error AllocatorM Unit := do
  let id ← Process.adopt object
  let _ ← tryRegistry (Registry.insert id)

/-- Allocates a buffer and answers its descriptor and its stride in pixels. The caller has one
reference to it. -/
def create (width height : UInt32) (raw : Int32) (usage : Usage) :
    ExceptT Error AllocatorM (Descriptor × UInt32) := do
  let some format := PixelFormat.ofRaw? raw
    | do
      Host.report (.unknownFormat raw)
      throw (.invalidFormat raw)
  let r ← onContext Context.ready
  let object ← attempt (BufferObject.create r.backend r.card width height format usage)
  adopt object
  return (object.descriptor, object.pixelStride)

/-- Makes a descriptor usable in this process, and imports its buffer if it is not known yet. -/
def register (d : Descriptor) : ExceptT Error AllocatorM Unit := do
  let key ← MonadExcept.ofExcept (keyOf d)
  let r ← onContext Context.ready
  if !(← getThe Allocator).registry.contains key then
    let object ← attempt (BufferObject.importFrom r.backend r.card d)
    adopt object
  let acquired : AllocatorM (Option ObjectId) := onRegistry (Registry.acquire key)
  if (← acquired).isNone then throw .invalidHandle
  Host.report (.registered key ((← getThe Allocator).registry.references? key))

/-- Balances one registration. An imported buffer came with a reference of its own, which goes
too. -/
def unregister (d : Descriptor) : ExceptT Error AllocatorM Unit := do
  let key ← MonadExcept.ofExcept (keyOf d)
  let some id := (← getThe Allocator).registry.get? key | throw .invalidHandle
  let imported := (((← getThe Process).object? id).map (·.imported)).getD false
  let _ ← tryRegistry (Registry.release key (if imported then 2 else 1))

/-- Drops the reference that the creator of a buffer got. -/
def dropLocal (d : Descriptor) : ExceptT Error AllocatorM Unit := do
  let key ← MonadExcept.ofExcept (keyOf d)
  let _ ← tryRegistry (Registry.release key 1)

/-- Runs a computation that may fail on the object that a descriptor designates. -/
def onBuffer {α : Type} (d : Descriptor) (x : ExceptT Error ObjectM α) :
    ExceptT Error AllocatorM α := do
  let id ← MonadExcept.ofExcept (lookup (← getThe Allocator) d)
  match ← Process.onObject id x.run with
  | some (.ok a) => return a
  | some (.error e) => throw e
  | none => throw .invalidHandle

/-- Locks a buffer. -/
def lock (d : Descriptor) (usage : Usage) (region : Region) :
    ExceptT Error AllocatorM (Option Address) :=
  onBuffer d (BufferObject.lock usage region)

/-- Locks a buffer and answers where its samples are. -/
def lockPlanar (d : Descriptor) (usage : Usage) (region : Region) : ExceptT Error AllocatorM Ycbcr :=
  onBuffer d (BufferObject.lockPlanar usage region)

/-- Unlocks a buffer. A descriptor of no registered buffer is passed over. -/
def unlock (d : Descriptor) : AllocatorM Unit := do
  match lookup (← getThe Allocator) d with
  | .ok id =>
    let _ ← Process.onObject id BufferObject.unlock
  | .error _ => Host.report (.unlockOfUnknown d.memory)

/-- The planes of a buffer, if its backend knows them. -/
def planes (d : Descriptor) : ExceptT Error AllocatorM (Option PlaneLayout) := do
  let id ← MonadExcept.ofExcept (lookup (← getThe Allocator) d)
  let p ← getThe Process
  return (p.object? id).bind (·.planes? p.host)

/-- The references to a buffer, if it is registered. -/
def references? (a : Allocator) (d : Descriptor) : Option Nat := do
  a.registry.references? (← d.key?)

/-- A hold of the caller's own on the object that a descriptor designates. -/
def hold (d : Descriptor) : ExceptT Error AllocatorM ObjectId := do
  let id ← MonadExcept.ofExcept (lookup (← getThe Allocator) d)
  Process.share id
  return id

/-! ## The end -/

/-- Lets go of the card and of every registered buffer, in some order of the buffers. -/
def dispose (order : List MemoryRef) : AllocatorM Unit := do
  let a ← getThe Allocator
  a.context.dispose
  onRegistry (Registry.clear order)

end Allocator

end GraphicsBuffers
