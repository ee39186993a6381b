import GraphicsBuffers.Allocator
import GraphicsBuffers.World
/-!
# Session commands

A session is a client that works through a list of commands. It keeps what they produce in named
variables of four kinds: descriptors, buffer objects, cards and mappings. A command names the
variables it uses; what it produces is stored under the step's own name.
-/

namespace GraphicsBuffers.Session

/-- A backend as a session names it. -/
inductive BackendChoice
  | dumb
  | scripted
  | plain
  /-- A backend whose construction fails. -/
  | failing (e : BackendError)

/-- Drivers and their backends; `none` is a backend of no known kind. -/
abbrev TableSpec := List (String × Option BackendChoice)

/-- A descriptor as a session gives it. -/
structure DescriptorSpec where
  width : UInt32
  height : UInt32
  format : Int32
  usage : Usage
  /-- The memory; a descriptor without it has no stride either. -/
  memory : Option MemoryRef
  stride : UInt32
  /-- The lines of the first plane, if not the height. -/
  planarHeight : Option UInt32

/-- The descriptor, if its format is known. -/
def DescriptorSpec.descriptor? (s : DescriptorSpec) : Option Descriptor := do
  let format ← PixelFormat.ofRaw? s.format
  let d : Descriptor :=
    { width := s.width, height := s.height, format, usage := s.usage
      planarHeight := s.planarHeight.getD s.height }
  return match s.memory with
    | some memory => d.withMemory memory s.stride
    | none => d

/-- What a session changes in the script of the scripted backend. -/
inductive ScriptChange
  | allocateFailure (e : Option BackendError)
  | mapFailure (e : Option BackendError)
  | stride (n : Option UInt32)
  | memory (m : Option MemoryRef)
  | linear (on : Bool)

/-- The script after a change. -/
def ScriptChange.apply (s : Script) : ScriptChange → Script
  | allocateFailure e => { s with allocateFailure := e }
  | mapFailure e => { s with mapFailure := e }
  | stride n => { s with stride := n }
  | memory m => { s with memory := m }
  | linear on => { s with linear := on }

/-- Which buffer is meant: that of a descriptor, or an object. -/
inductive BufferVar
  | descriptor (name : String)
  | object (name : String)

/-- Which open file a control request goes to. -/
inductive FileVar
  | card (name : String)
  | fd (n : Int32)

/-- A call of the device layer. -/
inductive DeviceCall
  | version
  | getMagic
  | authMagic (magic : UInt32)
  | setMaster
  | dropMaster
  | createDumb (width height bpp : UInt32)
  | mapDumb (handle : UInt32)
  | destroyDumb (handle : UInt32)
  | gemClose (handle : UInt32)
  | gemFlink (handle : UInt32)
  | gemOpen (name : UInt32)
  | primeFdToHandle (fd : Int32)
  | getResources
  | addFb (width height : UInt32) (format : Fourcc) (layout : PlaneLayout)
  | removeFb (id : UInt32)
  | map (offset length : UInt64) (writable : Bool)

/-- How the card of an allocator is opened. -/
inductive OpenChoice
  | config (c : DeviceConfig)
  | failing (reason : String)

/-- What a step does. -/
inductive Command
  -- the world
  | armFault (point : Option FaultPoint) (fault : Fault)
  | changeScript (changes : List ScriptChange)
  -- the allocator
  | openAllocator (how : OpenChoice) (table : Option TableSpec)
  | dropAllocator
  | describe (spec : DescriptorSpec)
  | create (width height : UInt32) (format : Int32) (usage : Usage)
  | register (h : String)
  | unregister (h : String)
  | dropLocal (h : String)
  | lock (target : BufferVar) (usage : Usage) (region : Region)
  | lockPlanar (target : BufferVar) (usage : Usage) (region : Region)
  | unlock (target : BufferVar)
  | planes (h : String)
  | references (h : String)
  | hold (h : String)
  -- the context
  | ensureReady (display : Bool)
  | displayReady
  | backendName
  | cardFd
  | magic
  | authenticate (magic : UInt32)
  | acquireMaster
  | releaseMaster
  -- buffer objects
  | createObject (card : String) (backend : Option BackendChoice) (width height : UInt32)
      (format : Int32) (usage : Usage)
  | importObject (card : String) (backend : Option BackendChoice) (h : String)
  | objectInfo (b : String)
  | attach (b : String)
  | drop (name : String)
  -- a registry of the session's own
  | registryInsert (b : String)
  | registryAcquire (key : Option MemoryRef)
  | registryGet (key : Option MemoryRef)
  | registryReferences (key : Option MemoryRef)
  | registryContains (key : Option MemoryRef)
  | registryRelease (key : Option MemoryRef) (count : Nat)
  | registrySize
  -- a table of the session's own
  | setTable (table : Option TableSpec)
  | tableRegister (driver : String) (backend : Option BackendChoice)
  | tableLookup (driver : String)
  | tableCreate (driver : String) (card : String)
  -- cards and mappings
  | openCard (config : DeviceConfig)
  | initDisplay (card : String)
  | device (file : FileVar) (call : Option DeviceCall)
  | mappingInfo (name : String)

/-- A command, the name its product is stored under, and what is shown of the state afterwards. -/
structure Step where
  /-- The command; `none` if it is not a known one, which is refused. -/
  command : Option Command
  /-- The variable that is set. -/
  name : String := ""
  /-- The object whose state is shown. -/
  watchedObject : Option String := none
  /-- The descriptor whose buffer's state is shown, if no object's is. -/
  watchedHandle : Option String := none

/-- Why a session does not carry out a command. -/
inductive Refusal
  | unknownCommand
  | unknownFormat
  | unknownVariable
  | unknownBackend
  | unknownCall
  deriving DecidableEq

/-- Why a command failed. -/
inductive Failure
  | refused (r : Refusal)
  | error (e : Error)
  | backend (e : BackendError)
  | map (e : MapError)
  | display (e : DisplayError)
  | version (e : VersionError)
  | control (e : Errno)
  | opening (e : OpenError)

/-- What is known of an object. -/
structure ObjectInfo where
  descriptor : Descriptor
  imported : Bool
  pixelStride : UInt32
  planes : Option PlaneLayout

/-- What is known of a mapping. -/
structure MappingInfo where
  length : UInt64
  isEmpty : Bool
  isZero : Bool

/-- What a command answers. -/
inductive Reply
  | done
  | flag (b : Bool)
  | count (n : Nat)
  | countOption (n : Option Nat)
  | word (n : UInt32)
  | signed (n : Int32)
  | wide (n : UInt64)
  | text (s : String)
  | descriptor (d : Descriptor)
  | created (d : Descriptor) (pixelStride : UInt32)
  | planes (p : Option PlaneLayout)
  | address (a : Option Address)
  | planar (p : Ycbcr)
  | objectInfo (i : ObjectInfo)
  | key (m : MemoryRef)
  | found (found : Bool) (names : List String)
  | size (n : Nat)
  | noBackend
  | backend (name : String)
  | resources (r : Wire.CardResources)
  | driver (d : DriverInfo)
  | dumbBuffer (d : Wire.DumbBuffer)
  | gemObject (o : Wire.GemObject)
  | mapping (length : UInt64) (isEmpty : Bool)
  | mappingInfo (i : MappingInfo)

end GraphicsBuffers.Session
