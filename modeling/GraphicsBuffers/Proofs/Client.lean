import GraphicsBuffers.Allocator
import GraphicsBuffers.Proofs.Run
/-!
# Clients

A client is a process at work: it has an allocator until it drops it, holds of its own on buffer
objects and on cards, and makes one call after the other. The calls are those of the allocator, of
its context, and of the objects the client holds; besides, something outside may set up failures of
the kernel or change the script of the scripted backend between calls. `Client.step` makes a call
and `Client.run` a list of them. A call on an object or a card that the client does not hold, or on
an allocator it has dropped, does not come to pass.
-/

namespace GraphicsBuffers

/-- A client. -/
structure Client where
  process : Process
  allocator : Option Allocator
  /-- The client's own holds on objects. -/
  holds : List ObjectId := []
  /-- The client's own holds on cards. -/
  cards : List Card := []

/-- What a client can do, and what can happen to it. -/
inductive Operation
  -- from outside
  | arm (point : FaultPoint) (plan : FaultPlan)
  | script (script : Script)
  -- buffers by their descriptors
  | create (width height : UInt32) (format : Int32) (usage : Usage)
  | register (d : Descriptor)
  | unregister (d : Descriptor)
  | dropLocal (d : Descriptor)
  | lock (d : Descriptor) (usage : Usage) (region : Region)
  | lockPlanar (d : Descriptor) (usage : Usage) (region : Region)
  | unlock (d : Descriptor)
  | planes (d : Descriptor)
  | hold (d : Descriptor)
  -- the context
  | ensureReady (needDisplay : Bool)
  | authMagic
  | authenticate (magic : UInt32)
  | acquireMaster
  | releaseMaster
  | holdCard
  | dropAllocator (order : List MemoryRef)
  -- objects and cards that the client holds
  | createObject (width height : UInt32) (format : PixelFormat) (usage : Usage)
  | importObject (d : Descriptor)
  | lockObject (id : ObjectId) (usage : Usage) (region : Region)
  | lockPlanarObject (id : ObjectId) (usage : Usage) (region : Region)
  | unlockObject (id : ObjectId)
  | attach (id : ObjectId)
  | share (id : ObjectId)
  | drop (id : ObjectId)
  | dropCard (card : Card)

/-- Whether a call is the end of the allocator. -/
def Operation.endsAllocator : Operation → Bool
  | dropAllocator _ => true
  | _ => false

theorem Operation.endsAllocator_iff {op : Operation} :
    op.endsAllocator ↔ ∃ order, op = .dropAllocator order := by
  cases op <;> simp [endsAllocator]

/-- What a call answers. -/
inductive Reply
  | done
  | created (d : Descriptor) (pixelStride : UInt32)
  | address (a : Option Address)
  | planar (a : Ycbcr)
  | planes (layout : Option PlaneLayout)
  | object (id : ObjectId)
  | word (n : UInt32)
  | card (card : Card)
  deriving DecidableEq

namespace Client

/-- A client at the start, on some host: its allocator has not opened the card yet. -/
def start (host : Host) (opener : Opener) (table : BackendTable) : Client where
  process := { host }
  allocator := some { context := { opener, table } }

variable {α : Type}

/-- Makes a call on the allocator. -/
def onAllocator (c : Client) (x : ExceptT Error AllocatorM α) : Except Error α × Client :=
  match c.allocator with
  | none => (.error .invalidHandle, c)
  | some a =>
    let ((outcome, a), process) := x.run.run a c.process
    (outcome, { c with process, allocator := some a })

/-- Makes a call on an object that the client holds. -/
def onObject (c : Client) (id : ObjectId) (x : ExceptT Error ObjectM α) : Except Error α × Client :=
  if id ∈ c.holds then
    let (outcome, process) := Process.onObject id x.run c.process
    (outcome.getD (.error .invalidHandle), { c with process })
  else (.error .invalidHandle, c)

/-- Gives a call's answer the form of a reply. -/
def replying (f : α → Reply) (result : Except Error α × Client) : Except Error Reply × Client :=
  (result.1.map f, result.2)

/-- Adds to the client's holds the object a call answered. -/
def holding (result : Except Error ObjectId × Client) : Except Error Reply × Client :=
  match result with
  | (.ok id, c) => (.ok (.object id), { c with holds := id :: c.holds })
  | (.error e, c) => (.error e, c)

/-- Makes an object on the allocator's card, which the client holds. -/
def newObject (make : Ready → Attempt Error BufferObject) : ExceptT Error AllocatorM ObjectId := do
  let r ← Allocator.onContext Context.ready
  let object ← Allocator.attempt (make r)
  Process.adopt object

/-- Gives the client a hold on the allocator's card. -/
def newCard : ExceptT Error AllocatorM Card := do
  let r ← Allocator.onContext Context.ready
  r.card.hold
  return r.card

/-- Makes a call. -/
def step (c : Client) : Operation → Except Error Reply × Client
  | .arm point plan =>
    (.ok .done, { c with process.host.kernel := c.process.host.kernel.armFaults point plan })
  | .script script => (.ok .done, { c with process.host.script := script })
  | .create width height format usage =>
    replying (fun (d, pixelStride) => .created d pixelStride)
      (c.onAllocator (Allocator.create width height format usage))
  | .register d => replying (fun _ => .done) (c.onAllocator (Allocator.register d))
  | .unregister d => replying (fun _ => .done) (c.onAllocator (Allocator.unregister d))
  | .dropLocal d => replying (fun _ => .done) (c.onAllocator (Allocator.dropLocal d))
  | .lock d usage region => replying .address (c.onAllocator (Allocator.lock d usage region))
  | .lockPlanar d usage region =>
    replying .planar (c.onAllocator (Allocator.lockPlanar d usage region))
  | .unlock d => replying (fun _ => .done) (c.onAllocator (Allocator.unlock d))
  | .planes d => replying .planes (c.onAllocator (Allocator.planes d))
  | .hold d => holding (c.onAllocator (Allocator.hold d))
  | .ensureReady needDisplay =>
    replying (fun _ => .done)
      (c.onAllocator (Allocator.onContext (Context.ensureReady needDisplay)))
  | .authMagic => replying .word (c.onAllocator (Allocator.onContext Context.authMagic))
  | .authenticate magic =>
    replying (fun _ => .done) (c.onAllocator (Allocator.onContext (Context.authenticate magic)))
  | .acquireMaster =>
    replying (fun _ => .done) (c.onAllocator (Allocator.onContext Context.acquireMaster))
  | .releaseMaster =>
    replying (fun _ => .done) (c.onAllocator (Allocator.onContext Context.releaseMaster))
  | .holdCard =>
    match c.onAllocator newCard with
    | (.ok card, c) => (.ok (.card card), { c with cards := card :: c.cards })
    | (.error e, c) => (.error e, c)
  | .dropAllocator order =>
    match c.allocator with
    | none => (.error .invalidHandle, c)
    | some a =>
      (.ok .done,
        { c with process := ((Allocator.dispose order).run a c.process).2, allocator := none })
  | .createObject width height format usage =>
    holding (c.onAllocator (newObject fun r =>
      BufferObject.create r.backend r.card width height format usage))
  | .importObject d =>
    holding (c.onAllocator (newObject fun r => BufferObject.importFrom r.backend r.card d))
  | .lockObject id usage region =>
    replying .address (c.onObject id (BufferObject.lock usage region))
  | .lockPlanarObject id usage region =>
    replying .planar (c.onObject id (BufferObject.lockPlanar usage region))
  | .unlockObject id => replying (fun _ => .done) (c.onObject id BufferObject.unlock)
  | .attach id => replying .word (c.onObject id BufferObject.attachFramebuffer)
  | .share id =>
    if id ∈ c.holds then
      (.ok .done, { c with process := (Process.share id c.process).2, holds := id :: c.holds })
    else (.error .invalidHandle, c)
  | .drop id =>
    if id ∈ c.holds then
      (.ok .done,
        { c with process := (Process.release id c.process).2, holds := c.holds.erase id })
    else (.error .invalidHandle, c)
  | .dropCard card =>
    if card ∈ c.cards then
      (.ok .done,
        { c with
          process.host := (card.release.run c.process.host).2, cards := c.cards.erase card })
    else (.error .invalidHandle, c)

/-- Makes calls one after the other. -/
def run (c : Client) (calls : List Operation) : Client := calls.foldl (fun c op => (c.step op).2) c

/-- The calls with what each of them answered. -/
def replies : Client → List Operation → List (Operation × Except Error Reply)
  | _, [] => []
  | c, op :: calls => (op, (c.step op).1) :: replies (c.step op).2 calls

end Client

end GraphicsBuffers
