import GraphicsBuffers.Kernel.State
/-!
# Control requests, as the kernel serves them

`serve` gives the effect of every control request on the kernel and on the structure passed with
it. The kernel reads the fields of the structure at their offsets and writes its answers into it in
place; all other bytes stay as they were.
-/

namespace GraphicsBuffers

open Wire

namespace Kernel

/-- Gives out a new handle on an object. -/
def newHandle (k : Kernel) (object : Nat) : Except Errno (UInt32 × Kernel) :=
  if k.nextHandle < UInt32.size then
    let handle := UInt32.ofNat k.nextHandle
    .ok (handle, { k with
      handles := k.handles.insert handle object
      nextHandle := k.nextHandle + 1 })
  else .error .ENOSPC

/-- Adds an object and gives out a first handle on it. -/
def newObject (k : Kernel) (object : MemoryObject) : Except Errno (UInt32 × Kernel) :=
  { k with objects := k.objects ++ [object] }.newHandle k.objects.length

/-- Takes back a handle. With the last handle of an object that was allocated here its name goes
too, if it still designates the object. `none` if there is no such handle. -/
def dropHandle? (k : Kernel) (handle : UInt32) : Option Kernel := do
  let index ← k.handles.get? handle
  let handles := k.handles.erase handle
  let gone := !(handles.entries.any (·.2 == index))
  let names :=
    match k.objects[index]? with
    | some object =>
      if gone && !object.foreign && k.names.get? object.name == some index then
        k.names.erase object.name
      else k.names
    | none => k.names
  return { k with handles, names }

/-- The driver's line length for a line of `width` pixels of `bpp` bits. -/
def dumbPitch (card : CardNode) (width bpp : UInt32) : Nat :=
  roundUp ((width.toNat * bpp.toNat + 7) / 8) card.pitchAlign

/-- Allocates a dumb buffer. -/
def serveCreateDumb (k : Kernel) (card : CardNode) (argument : Bytes) :
    Except Errno (Bytes × Kernel) := do
  let height := read32 argument 0
  let width := read32 argument 4
  let bpp := read32 argument 8
  let pitch := dumbPitch card width bpp
  if width = 0 ∨ height = 0 ∨ bpp = 0 ∨ UInt32.size ≤ pitch then throw .EINVAL
  let size := card.sizes.size (UInt32.ofNat pitch) height
  let (handle, k) ← k.newObject { size, foreign := false }
  let reply := write argument 16 (word32 handle)
  let reply := write reply 20 (word32 (UInt32.ofNat pitch))
  return (write reply 24 (word64 size), k)

/-- Answers the version and the length of the driver's name, and copies as much of the name as there
is room for behind the structure's pointer. -/
def serveVersion (card : CardNode) (argument : Bytes) : Reply :=
  let room := (read64 argument 16).toNat + 1
  let copied := if read64 argument 24 = 0 then [] else card.driver.take room
  let reply := write argument 0 (int32 card.major)
  let reply := write reply 4 (int32 card.minor)
  let reply := write reply 8 (int32 card.patch)
  let length := card.reportedLength.getD (UInt64.ofNat card.driver.length)
  ⟨write reply 16 (word64 length), copied⟩

/-- Names the object of a handle: its own name, or the next one if it has none. -/
def serveFlink (k : Kernel) (argument : Bytes) : Except Errno (Bytes × Kernel) := do
  let some index := k.handles.get? (read32 argument 0) | throw .ENOENT
  let some object := k.objects[index]? | throw .ENOENT
  if object.name ≠ 0 then
    return (write argument 4 (word32 object.name), k)
  let name := k.nextName
  return (write argument 4 (word32 name), { k with
    objects := k.objects.set index { object with name }
    names := k.names.insert name index
    nextName := name + 1 })

/-- Opens the object of a global name. -/
def serveGemOpen (k : Kernel) (argument : Bytes) : Except Errno (Bytes × Kernel) := do
  let some index := k.names.get? (read32 argument 0) | throw .ENOENT
  let some object := k.objects[index]? | throw .ENOENT
  let (handle, k) ← k.newHandle index
  return (write (write argument 4 (word32 handle)) 8 (word64 object.size), k)

/-- Gives a handle on the memory of an open dma-buf. -/
def servePrime (k : Kernel) (argument : Bytes) : Except Errno (Bytes × Kernel) := do
  let fd := readInt32 argument 8
  let some dmabuf := k.dmabufs.find? fun d => decide (d.fd = fd) | throw .EBADF
  let (handle, k) ← k.newObject { size := dmabuf.size, foreign := true }
  return (write argument 0 (word32 handle), k)

/-- Makes or unmakes a client the master of a card. -/
def serveMaster (k : Kernel) (index : Nat) (card : CardNode) (acquire : Bool) :
    Except Errno Kernel :=
  if card.hasMaster = acquire then .error (if acquire then .EBUSY else .EINVAL)
  else .ok { k with cards := k.cards.set index { card with hasMaster := acquire } }

/-- Creates a framebuffer. -/
def serveAddFb (k : Kernel) (argument : Bytes) : Except Errno (Bytes × Kernel) :=
  if k.nextFramebuffer < UInt32.size then
    let id := UInt32.ofNat k.nextFramebuffer
    .ok (write argument 0 (word32 id), { k with
      framebuffers := id :: k.framebuffers
      nextFramebuffer := k.nextFramebuffer + 1 })
  else .error .ENOSPC

/-- The effect of a request on an open card: the reply, and the kernel afterwards. -/
def serve (k : Kernel) (index : Nat) (card : CardNode) (request : Request)
    (argument : Bytes) : Except Errno (Reply × Kernel) := do
  match request with
  | .version => return (serveVersion card argument, k)
  | .getMagic => return (⟨write argument 0 (word32 card.magic), []⟩, k)
  | .authMagic => return (⟨argument, []⟩, k)
  | .setMaster => return (⟨argument, []⟩, ← k.serveMaster index card true)
  | .dropMaster => return (⟨argument, []⟩, ← k.serveMaster index card false)
  | .createDumb =>
    let (reply, k) ← k.serveCreateDumb card argument
    return (⟨reply, []⟩, k)
  | .mapDumb =>
    let handle := read32 argument 0
    if k.handles.contains handle then
      return (⟨write argument 8 (word64 (handle.toUInt64 <<< 32)), []⟩, k)
    else throw .ENOENT
  | .destroyDumb =>
    match k.dropHandle? (read32 argument 0) with
    | some k => return (⟨argument, []⟩, k)
    | none => throw .ENOENT
  | .gemClose =>
    match k.dropHandle? (read32 argument 0) with
    | some k => return (⟨argument, []⟩, k)
    | none => throw .EINVAL
  | .gemFlink =>
    let (reply, k) ← k.serveFlink argument
    return (⟨reply, []⟩, k)
  | .gemOpen =>
    let (reply, k) ← k.serveGemOpen argument
    return (⟨reply, []⟩, k)
  | .primeFdToHandle =>
    let (reply, k) ← k.servePrime argument
    return (⟨reply, []⟩, k)
  | .getResources =>
    return (⟨write argument 32 (card.resources.toList.flatMap word32), []⟩, k)
  | .addFb2 =>
    let (reply, k) ← k.serveAddFb argument
    return (⟨reply, []⟩, k)
  | .removeFb =>
    let id := read32 argument 0
    if k.framebuffers.contains id then
      return (⟨argument, []⟩, { k with framebuffers := k.framebuffers.erase id })
    else throw .ENOENT

end Kernel

end GraphicsBuffers
