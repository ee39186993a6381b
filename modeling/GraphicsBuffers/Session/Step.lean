import GraphicsBuffers.Session.Command
/-!
# Sessions, step by step

The state of a session is a process, an allocator in it if one is open, a registry and a backend
table of the session's own, and the named variables. `step` carries out one command. A variable is
set only when the command succeeds, and what it held before is let go after that.
-/

namespace GraphicsBuffers

/-- The state of a session. -/
structure Session where
  process : Process
  allocator : Option Allocator := none
  registry : Registry := {}
  table : BackendTable := .standard
  handles : Table String Descriptor := .empty
  objects : Table String ObjectId := .empty
  cards : Table String Card := .empty
  mappings : Table String Mapping := .empty

namespace Session

/-- A computation in a session. -/
abbrev SessionM := StateM Session

/-- A computation in a session that may fail. -/
abbrev Attempted := ExceptT Failure SessionM

/-- A computation in the session's process. -/
instance : MonadLift ProcessM SessionM where
  monadLift x := fun s =>
    let (a, process) := x s.process
    (a, { s with process })

/-! ## Parts of the state -/

/-- Declines a command. -/
def refuse {α : Type} (r : Refusal) : Attempted α := throw (.refused r)

/-- A value that has to be there. -/
def require {α : Type} (r : Refusal) : Option α → Attempted α
  | some a => return a
  | none => refuse r

/-- The descriptor of a name. -/
def handleOf (name : String) : Attempted Descriptor := do
  require .unknownVariable ((← get).handles.get? name)

/-- The buffer object of a name. -/
def objectOf (name : String) : Attempted ObjectId := do
  require .unknownVariable ((← get).objects.get? name)

/-- The card of a name. -/
def cardOf (name : String) : Attempted Card := do
  require .unknownVariable ((← get).cards.get? name)

/-- The mapping of a name. -/
def mappingOf (name : String) : Attempted Mapping := do
  require .unknownVariable ((← get).mappings.get? name)

/-- Runs a computation on the session's allocator. -/
def onAllocator {α : Type} (x : AllocatorM α) : Attempted α := do
  let a ← require .unknownVariable (← get).allocator
  let ((outcome, a), process) := x.run a (← get).process
  modify fun s => { s with process, allocator := some a }
  return outcome

/-- Runs a computation that may fail on the session's allocator. -/
def tryAllocator {α : Type} (x : ExceptT Error AllocatorM α) : Attempted α := do
  match ← onAllocator x.run with
  | .ok a => return a
  | .error e => throw (.error e)

/-- Runs a computation that may fail on the session's own registry. -/
def tryRegistry {α : Type} (x : ExceptT Error RegistryM α) : Attempted α := do
  let ((outcome, registry), process) := x.run.run (← get).registry (← get).process
  modify fun s => { s with process, registry }
  match outcome with
  | .ok a => return a
  | .error e => throw (.error e)

/-- Runs a computation that may fail on the host. -/
def tryHost {ε α : Type} (failure : ε → Failure) (x : Attempt ε α) : Attempted α := do
  let outcome : SessionM (Except ε α) := MonadLift.monadLift (Process.attempt x).run
  match ← outcome with
  | .ok a => return a
  | .error e => throw (failure e)

/-- Runs a computation that may fail on an object. -/
def tryObject {α : Type} (name : String) (x : ExceptT Error ObjectM α) : Attempted α := do
  let id ← objectOf name
  match ← Process.onObject id x.run with
  | some (.ok a) => return a
  | some (.error e) => throw (.error e)
  | none => refuse .unknownVariable

/-! ## Setting variables -/

/-- Stores a descriptor under a name. -/
def setHandle (name : String) (d : Descriptor) : SessionM Unit :=
  modify fun s => { s with handles := s.handles.insert name d }

/-- Lets go of an object variable. -/
def dropObject (name : String) : SessionM Unit := do
  if let some id := (← get).objects.get? name then
    modify fun s => { s with objects := s.objects.erase name }
    Process.release id

/-- Lets go of a card variable. -/
def dropCard (name : String) : SessionM Unit := do
  if let some card := (← get).cards.get? name then
    modify fun s => { s with cards := s.cards.erase name }
    (card.release : HostM Unit)

/-- Lets go of a mapping variable. -/
def dropMapping (name : String) : SessionM Unit := do
  if let some mapping := (← get).mappings.get? name then
    modify fun s => { s with mappings := s.mappings.erase name }
    (mapping.unmap : HostM Unit)

/-- Stores a hold on an object under a name, and lets go of the one stored there. -/
def setObject (name : String) (id : ObjectId) : SessionM Unit := do
  dropObject name
  modify fun s => { s with objects := s.objects.insert name id }

/-- Stores a card under a name, and lets go of the one stored there. -/
def setCard (name : String) (card : Card) : SessionM Unit := do
  dropCard name
  modify fun s => { s with cards := s.cards.insert name card }

/-- Stores a mapping under a name, and gives back the one stored there. -/
def setMapping (name : String) (mapping : Mapping) : SessionM Unit := do
  dropMapping name
  modify fun s => { s with mappings := s.mappings.insert name mapping }

/-- Closes the allocator, if there is one. -/
def dropAllocator : SessionM Unit := do
  if let some a := (← get).allocator then
    modify fun s => { s with allocator := none }
    let _ ← ((Allocator.dispose []).run a : ProcessM (Unit × Allocator))

/-! ## Backends -/

/-- The constructor of a backend. -/
def BackendChoice.constructor : BackendChoice → BackendConstructor
  | dumb => BackendTable.dumb
  | scripted => fun _ => return .scripted
  | plain => fun _ => return .plain
  | failing e => fun _ => throw e

/-- The table of a list; `none` if a backend is of no known kind. -/
def tableOf? (spec : TableSpec) : Option BackendTable :=
  spec.foldlM (fun t (driver, choice) => choice.map fun c => t.register driver c.constructor) {}

/-- The table of a list, or the standard one. -/
def tableOrStandard (spec : Option TableSpec) : Attempted BackendTable :=
  match spec with
  | some spec => require .unknownBackend (tableOf? spec)
  | none => return .standard

/-- Makes a backend of its own for a card. -/
def makeBackend (choice : Option BackendChoice) (card : Card) : Attempted Backend := do
  let choice ← require .unknownBackend choice
  let table := ({} : BackendTable).register "x" choice.constructor
  match ← (table.create? "x" card : HostM _) with
  | some (.ok backend) => return backend
  | some (.error e) => throw (.backend e)
  | none => refuse .unknownBackend

/-! ## Device calls -/

/-- Sends a control request and turns its answer into a reply. -/
def exchange {α : Type} (fd : Int32) (x : Wire.Exchange α) (reply : α → Reply) :
    Attempted Reply :=
  return reply (← tryHost .control (Host.exchange fd x))

/-- Carries out a call of the device layer. -/
def deviceCall (fd : Int32) (name : String) : DeviceCall → Attempted Reply
  | .version => return .driver (← tryHost .version (Device.version fd))
  | .getMagic => exchange fd .getMagic .word
  | .authMagic magic => exchange fd (.authMagic magic) fun _ => .done
  | .setMaster => exchange fd .setMaster fun _ => .done
  | .dropMaster => exchange fd .dropMaster fun _ => .done
  | .createDumb width height bpp => exchange fd (.createDumb width height bpp) .dumbBuffer
  | .mapDumb handle => exchange fd (.mapDumb handle) .wide
  | .destroyDumb handle => exchange fd (.destroyDumb handle) fun _ => .done
  | .gemClose handle => exchange fd (.gemClose handle) fun _ => .done
  | .gemFlink handle => exchange fd (.gemFlink handle) .word
  | .gemOpen n => exchange fd (.gemOpen n) .gemObject
  | .primeFdToHandle dmabuf => exchange fd (.primeFdToHandle dmabuf) .word
  | .getResources => exchange fd .getResources .resources
  | .addFb width height format layout =>
    exchange fd (.addFb2 width height format layout) .word
  | .removeFb id => exchange fd (.removeFb id) fun _ => .done
  | .map offset length writable => do
    let mapping ← tryHost .map (Mapping.map fd offset length writable)
    setMapping name mapping
    return .mapping mapping.length mapping.isEmpty

/-! ## Commands -/

/-- The names of the object variables that hold an object, in order. -/
def namesOf (s : Session) (id : ObjectId) : List String :=
  ((s.objects.entries.filter fun e => decide (e.2 = id)).map (·.1)).mergeSort fun a b =>
    decide (a ≤ b)

/-- What is answered about an object that was looked up in the session's registry. -/
def foundReply (id : Option ObjectId) : Attempted Reply := do
  match id with
  | some id => return .found true (namesOf (← get) id)
  | none => return .found false []

/-- Carries out a command on the buffer of a descriptor, or on an object. -/
def onBuffer {α : Type} (target : BufferVar) (ofDescriptor : Descriptor → ExceptT Error AllocatorM α)
    (ofObject : ExceptT Error ObjectM α) : Attempted α := do
  match target with
  | .descriptor h => tryAllocator (ofDescriptor (← handleOf h))
  | .object b => tryObject b ofObject

/-- The allocator that a session opens. A table or an opener of the session's own takes the place of
the usual ones, and then the opening is not reported. -/
def allocatorOf (how : OpenChoice) (table : Option TableSpec) : Attempted Allocator := do
  let tableUsed ← tableOrStandard table
  match how, table with
  | .config config, none => return .ofConfig config
  | .config config, some _ =>
    return { context := { opener := .ofConfig config, table := tableUsed } }
  | .failing reason, _ => return { context := { opener := throw reason, table := tableUsed } }

/-- Carries out a command. What it produces is stored under `name`. -/
def perform (name : String) : Command → Attempted Reply
  | .armFault point fault => do
    if let some point := point then
      -- The number 0 stands for no failure.
      let plan := if fault.errno.code = 0 then [] else [fault]
      modify fun s => { s with process.host.kernel := s.process.host.kernel.armFaults point plan }
    return .done
  | .changeScript changes => do
    modify fun s =>
      { s with process.host.script := changes.foldl ScriptChange.apply s.process.host.script }
    return .done
  | .openAllocator how table => do
    let a ← allocatorOf how table
    dropAllocator
    modify fun s => { s with allocator := some a }
    return .done
  | .dropAllocator => do
    modify fun s => { s with process.host.kernel := s.process.host.kernel.clearFaults }
    dropAllocator
    return .done
  | .describe spec => do
    let d ← require .unknownFormat spec.descriptor?
    setHandle name d
    return .descriptor d
  | .create width height format usage => do
    let (d, pixelStride) ← tryAllocator (Allocator.create width height format usage)
    setHandle name d
    return .created d pixelStride
  | .register h => do
    tryAllocator (Allocator.register (← handleOf h))
    return .done
  | .unregister h => do
    tryAllocator (Allocator.unregister (← handleOf h))
    return .done
  | .dropLocal h => do
    tryAllocator (Allocator.dropLocal (← handleOf h))
    return .done
  | .lock target usage region =>
    return .address (← onBuffer target (Allocator.lock · usage region)
      (BufferObject.lock usage region))
  | .lockPlanar target usage region =>
    return .planar (← onBuffer target (Allocator.lockPlanar · usage region)
      (BufferObject.lockPlanar usage region))
  | .unlock (.descriptor h) => do
    onAllocator (Allocator.unlock (← handleOf h))
    return .done
  | .unlock (.object b) => do
    tryObject b BufferObject.unlock
    return .done
  | .planes h => return .planes (← tryAllocator (Allocator.planes (← handleOf h)))
  | .references h => do
    let d ← handleOf h
    let a ← require .unknownVariable (← get).allocator
    return .countOption (a.references? d)
  | .hold h => do
    let id ← tryAllocator (Allocator.hold (← handleOf h))
    setObject name id
    return .done
  | .ensureReady display => do
    tryAllocator (Allocator.onContext (Context.ensureReady display))
    return .done
  | .displayReady => do
    let a ← require .unknownVariable (← get).allocator
    return .flag a.context.displayReady
  | .backendName => do
    return .text (← tryAllocator (Allocator.onContext Context.ready)).backend.name
  | .cardFd => do
    return .signed (← tryAllocator (Allocator.onContext Context.ready)).card.fd
  | .magic => return .word (← tryAllocator (Allocator.onContext Context.authMagic))
  | .authenticate magic => do
    tryAllocator (Allocator.onContext (Context.authenticate magic))
    return .done
  | .acquireMaster => do
    tryAllocator (Allocator.onContext Context.acquireMaster)
    return .done
  | .releaseMaster => do
    tryAllocator (Allocator.onContext Context.releaseMaster)
    return .done
  | .createObject card choice width height format usage => do
    let card ← cardOf card
    let backend ← makeBackend choice card
    let format ← require .unknownFormat (PixelFormat.ofRaw? format)
    let object ← tryHost .error (BufferObject.create backend card width height format usage)
    setObject name (← Process.adopt object)
    return .descriptor object.descriptor
  | .importObject card choice h => do
    let card ← cardOf card
    let backend ← makeBackend choice card
    let d ← handleOf h
    let object ← tryHost .error (BufferObject.importFrom backend card d)
    setObject name (← Process.adopt object)
    return .descriptor object.descriptor
  | .objectInfo b => do
    let id ← objectOf b
    let p := (← get).process
    let o ← require .unknownVariable (p.object? id)
    return .objectInfo ⟨o.descriptor, o.imported, o.pixelStride, o.planes? p.host⟩
  | .attach b => return .word (← tryObject b BufferObject.attachFramebuffer)
  | .drop name => do
    dropObject name
    dropCard name
    dropMapping name
    return .done
  | .registryInsert b => do
    let id ← objectOf b
    Process.share id
    return .key (← tryRegistry (Registry.insert id))
  | .registryAcquire key => do
    match key with
    | some key => foundReply (← tryRegistry (Registry.acquire key))
    | none => foundReply none
  | .registryGet key => do foundReply (key.bind (← get).registry.get?)
  | .registryReferences key => do
    return .countOption (key.bind (← get).registry.references?)
  | .registryContains key => do
    return .flag ((key.map (← get).registry.contains).getD false)
  | .registryRelease key count =>
    match key with
    | some key => return .flag (← tryRegistry (Registry.release key count))
    | none => throw (.error .invalidHandle)
  | .registrySize => return .size (← get).registry.size
  | .setTable spec => do
    let table ← tableOrStandard spec
    modify fun s => { s with table }
    return .text table.text
  | .tableRegister driver choice => do
    let choice ← require .unknownBackend choice
    let table := (← get).table.register driver choice.constructor
    modify fun s => { s with table }
    return .text table.text
  | .tableLookup driver => return .flag ((← get).table.lookup? driver).isSome
  | .tableCreate driver card => do
    let card ← cardOf card
    match ← ((← get).table.create? driver card : HostM _) with
    | some (.ok backend) => return .backend backend.name
    | some (.error e) => throw (.backend e)
    | none => return .noBackend
  | .openCard config => do
    let card ← tryHost .opening config.openCard
    setCard name card
    return .text card.path
  | .initDisplay card => do
    let card ← cardOf card
    return .resources (← tryHost .display (Device.initDisplay card.fd))
  | .device file call => do
    let fd ← match file with
      | .card c => (·.fd) <$> cardOf c
      | .fd n => pure n
    deviceCall fd name (← require .unknownCall call)
  | .mappingInfo name => do
    let m ← mappingOf name
    let zero := (← get).process.host.kernel.isZeroMapping m.id
    return .mappingInfo ⟨m.length, m.isEmpty, zero⟩

/-! ## Reports -/

/-- The state of an object. -/
structure ObjectState where
  locks : UInt32
  lockedFor : Usage
  framebuffer : Option UInt32
  destroyed : Bool

/-- What is shown of the state after a step. -/
inductive Shown
  | nothing
  | object (o : ObjectState)
  /-- The references to a descriptor's buffer, and its state if it is registered. -/
  | handle (references : Option Nat) (o : Option ObjectState)

/-- The outcome of a step and what happened on the way. -/
structure Report where
  outcome : Except Failure Reply
  calls : List String
  events : List String
  shown : Shown

/-- The state of an object of the session. -/
def objectState? (s : Session) (id : ObjectId) : Option ObjectState :=
  (s.process.object? id).map fun o => ⟨o.lockCount, o.lockedFor, o.framebuffer, o.isDestroyed⟩

/-- What a step shows of the state. -/
def shown (s : Session) (step : Step) : Shown :=
  match step.watchedObject.bind s.objects.get? |>.bind s.objectState? with
  | some o => .object o
  | none =>
    match s.allocator, step.watchedHandle.bind s.handles.get? with
    | some a, some d => .handle (a.references? d) ((a.lookup d).toOption.bind s.objectState?)
    | _, _ => .nothing

/-- Whether the buffers that a command lets go of go in no fixed order, so that its trace and log are
shown sorted. -/
def unordered : Option Command → Bool
  | some .dropAllocator => true
  | _ => false

/-- Carries out a step and reports on it. The state is shown even if the step was refused. -/
def step (st : Step) : SessionM Report := do
  modify fun s => { s with process.host.kernel.trace := [], process.host.log := [] }
  let outcome ← (require .unknownCommand st.command >>= perform st.name).run
  let s ← get
  let calls := s.process.host.kernel.trace.reverse.map TraceEntry.text
  let events := s.process.host.log.reverse.map LogEvent.text
  let arrange (lines : List String) : List String :=
    if unordered st.command then lines.mergeSort fun a b => decide (a ≤ b) else lines
  return ⟨outcome, arrange calls, arrange events, s.shown st⟩

/-- A session at its start. -/
def start (world : World) (script : Script) : Session := { process := world.process script }

end Session

end GraphicsBuffers
