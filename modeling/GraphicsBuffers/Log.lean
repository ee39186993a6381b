import GraphicsBuffers.Descriptor
import GraphicsBuffers.Error
import GraphicsBuffers.Region
import GraphicsBuffers.Wire.Exchange
/-!
# Log events

What the allocator reports on the way: failures that are also returned to callers, oddities it
lives with, the choice of a backend, and the life of buffers. An event is data; `LogEvent.text` is
the one place where it becomes a line.
-/

namespace GraphicsBuffers

/-- How much an event matters. -/
inductive LogLevel
  | error | warn | info | debug
  deriving DecidableEq

/-- Something worth reporting. -/
inductive LogEvent
  -- device and backend
  | opened (path : String)
  | openFailed (reason : String)
  | invalidDevice (e : VersionError)
  | probed (driver framebuffer path : String)
  | backendCreated (backend driver : String)
  | backendFailed (driver : String) (e : BackendError)
  | unsupportedDriver (driver : String)
  | displayReady (resources : Wire.CardResources)
  | displayFailed (e : DisplayError)
  -- backend memory
  | invalidDmaBuf (fd : Int32) (e : Errno)
  | objectOpened (memory : MemoryRef) (handle : UInt32)
  | namingFailed (handle : UInt32) (e : Errno)
  | destroyFailed (handle : UInt32) (e : Errno)
  | freeFailed (handle : UInt32) (e : Errno)
  | unmapFailed (e : Errno)
  -- buffer objects
  | unknownFormat (raw : Int32)
  | tooLarge (width height : UInt32) (format : PixelFormat)
  | allocationFailed (width height : UInt32) (format : PixelFormat) (e : BackendError)
  | invalidMemory (backend : String) (memory : MemoryRef)
  | created (width height : UInt32) (format : PixelFormat) (memory : MemoryRef) (stride : UInt32)
  | importTooLarge (d : Descriptor)
  | importFailed (memory : Option MemoryRef) (e : BackendError)
  | imported (memory : Option MemoryRef)
  | framebufferFailed (e : Errno)
  | framebufferAttached (id : UInt32) (memory : Option MemoryRef)
  | framebufferRemovalFailed (id : UInt32) (e : Errno)
  | destroyedWhileLocked (memory : Option MemoryRef) (locks : UInt32)
  | dmaBufCloseFailed (fd : Int32) (e : Errno)
  | destroyed (memory : Option MemoryRef)
  -- locks
  | undeclaredUsage (requested declared : Usage)
  | alreadyLocked (lockedFor requested : Usage)
  | mapFailed (memory : Option MemoryRef) (e : BackendError)
  | locked (memory : Option MemoryRef) (usage : Usage) (region : Region) (locks : UInt32)
  -- references
  | alreadyRegistered (key : MemoryRef)
  | registered (key : MemoryRef) (references : Option Nat)
  | unregistered (key : MemoryRef)
  | unlockOfUnknown (memory : Option MemoryRef)

namespace LogLevel

/-- The name of the level. -/
def text : LogLevel → String
  | error => "ERROR"
  | warn => "WARN"
  | info => "INFO"
  | debug => "DEBUG"

end LogLevel

namespace LogEvent

/-- How much the event matters: failures are errors, what a caller should mend is a warning, and the
life of buffers is for debugging. -/
def level : LogEvent → LogLevel
  | openFailed _ | invalidDevice _ | backendFailed .. | unsupportedDriver _ | displayFailed _
  | invalidDmaBuf .. | namingFailed .. | destroyFailed .. | freeFailed .. | unmapFailed _
  | unknownFormat _ | tooLarge .. | allocationFailed .. | invalidMemory .. | importTooLarge _
  | importFailed .. | framebufferFailed _ | framebufferRemovalFailed .. | dmaBufCloseFailed ..
  | undeclaredUsage .. | alreadyLocked .. | mapFailed .. => .error
  | destroyedWhileLocked .. | alreadyRegistered _ => .warn
  | opened _ | backendCreated .. => .info
  | probed .. | displayReady _ | objectOpened .. | created .. | imported _ | framebufferAttached ..
  | destroyed _ | locked .. | registered .. | unregistered _ | unlockOfUnknown _ => .debug

/-- A width and a height. -/
def sizeText (width height : UInt32) : String :=
  toString width.toNat ++ "x" ++ toString height.toNat

/-- A size and a format. -/
def bufferText (width height : UInt32) (format : PixelFormat) : String :=
  sizeText width height ++ " buffer of format " ++ format.name

/-- The counts and limits of a display, each with its name. -/
def resourcesText (r : Wire.CardResources) : String :=
  "CardResources \x7b count_fbs: " ++ toString r.framebuffers.toNat
    ++ ", count_crtcs: " ++ toString r.crtcs.toNat
    ++ ", count_connectors: " ++ toString r.connectors.toNat
    ++ ", count_encoders: " ++ toString r.encoders.toNat
    ++ ", min_width: " ++ toString r.minWidth.toNat ++ ", max_width: " ++ toString r.maxWidth.toNat
    ++ ", min_height: " ++ toString r.minHeight.toNat
    ++ ", max_height: " ++ toString r.maxHeight.toNat ++ " \x7d"

/-- A number of references that may be missing. -/
def referencesText : Option Nat → String
  | none => "None"
  | some n => "Some(" ++ toString n ++ ")"

/-- What is reported, without the level. -/
def message : LogEvent → String
  | opened path => "opened " ++ path
  | openFailed reason => "failed to open DRM device: " ++ reason
  | invalidDevice e => "invalid DRM device: " ++ e.message
  | probed driver framebuffer path => driver ++ " drives " ++ framebuffer ++ " at " ++ path
  | backendCreated backend driver => "create " ++ backend ++ " for driver " ++ driver
  | backendFailed driver e => "failed to create backend for " ++ driver ++ ": " ++ e.message
  | unsupportedDriver driver => "unsupported driver: " ++ driver
  | displayReady resources => "display initialized: " ++ resourcesText resources
  | displayFailed e => "failed to initialize display: " ++ e.message
  | invalidDmaBuf fd e => "invalid dma-buf descriptor " ++ toString fd.toInt ++ ": " ++ e.text
  | objectOpened memory handle =>
    "opened " ++ memory.text ++ " as GEM handle " ++ toString handle.toNat
  | namingFailed handle e =>
    "failed to name dumb buffer " ++ toString handle.toNat ++ ": " ++ e.controlText
  | destroyFailed handle e =>
    "failed to destroy dumb buffer " ++ toString handle.toNat ++ ": " ++ e.controlText
  | freeFailed handle e =>
    "failed to free GEM handle " ++ toString handle.toNat ++ ": " ++ e.controlText
  | unmapFailed e => "Error while unmapping buffer: " ++ e.text
  | unknownFormat raw => "unknown pixel format 0x" ++ Text.hex raw.toUInt32.toNat
  | tooLarge width height format => bufferText width height format ++ " is too large"
  | allocationFailed width height format e =>
    "failed to allocate " ++ bufferText width height format ++ ": " ++ e.message
  | invalidMemory backend memory =>
    backend ++ " backend returned invalid memory " ++ memory.text
  | created width height format memory stride =>
    "created " ++ sizeText width height ++ " " ++ format.name ++ " buffer " ++ memory.text
      ++ ", stride " ++ toString stride.toNat
  | importTooLarge d =>
    MemoryRef.optionText d.memory ++ " is too large: " ++ sizeText d.width d.height ++ ", stride "
      ++ toString d.stride.toNat
  | importFailed memory e => "failed to import " ++ MemoryRef.optionText memory ++ ": " ++ e.message
  | imported memory => "imported " ++ MemoryRef.optionText memory
  | framebufferFailed e => "failed to add framebuffer: " ++ e.controlText
  | framebufferAttached id memory =>
    "attached framebuffer " ++ toString id.toNat ++ " to " ++ MemoryRef.optionText memory
  | framebufferRemovalFailed id e =>
    "failed to remove framebuffer " ++ toString id.toNat ++ ": " ++ e.controlText
  | destroyedWhileLocked memory locks =>
    "destroying " ++ MemoryRef.optionText memory ++ " while locked " ++ toString locks.toNat
      ++ " times"
  | dmaBufCloseFailed fd e => "failed to close dma-buf " ++ toString fd.toInt ++ ": " ++ e.text
  | destroyed memory => "destroyed " ++ MemoryRef.optionText memory
  | undeclaredUsage requested declared =>
    "lock usage " ++ requested.hexText ++ " not declared by buffer (usage " ++ declared.hexText
      ++ ")"
  | alreadyLocked lockedFor requested =>
    "bo is already locked for " ++ lockedFor.hexText ++ ", cannot lock for " ++ requested.hexText
  | mapFailed memory e => "failed to map " ++ MemoryRef.optionText memory ++ ": " ++ e.message
  | locked memory usage region locks =>
    "locked " ++ MemoryRef.optionText memory ++ " for " ++ usage.hexText ++ " (" ++ region.text
      ++ " " ++ toString locks.toNat ++ ")"
  | alreadyRegistered key => key.text ++ " is already registered"
  | registered key references =>
    "registered " ++ key.text ++ " (" ++ referencesText references ++ " refs)"
  | unregistered key => "unregistered " ++ key.text
  | unlockOfUnknown memory => "unlock of unknown handle " ++ MemoryRef.optionText memory

/-- The level, then the message. -/
def text (e : LogEvent) : String := e.level.text ++ " " ++ e.message

end LogEvent

end GraphicsBuffers
