import GraphicsBuffers.Errno
import GraphicsBuffers.Usage
/-!
# Errors

Every failure is a cause: a constructor with what it is about. Each type of cause has the text it
is shown as, the number it is reported as to callers that take numbers, and, where it passes on a
failure of a lower layer, the chain of what lies below it.
-/

namespace GraphicsBuffers

/-- How a failed control request is shown. -/
def Errno.controlText (e : Errno) : String := "ioctl error: " ++ e.text

/-- Why memory was not mapped. -/
inductive MapError
  | emptyLength
  | failed (e : Errno)
  deriving DecidableEq

/-- Why the display cannot be used. -/
inductive DisplayError
  | failed (e : Errno)
  | noCrtc
  deriving DecidableEq

/-- Why the driver of a card is not known. -/
inductive VersionError
  | failed (e : Errno)
  | invalidName
  deriving DecidableEq

/-- Why a backend refused. -/
inductive BackendError
  | control (e : Errno)
  | mapping (e : MapError)
  | outOfMemory
  | unsupported (what : String)
  deriving DecidableEq

/-- Why `/proc/fb` was not read. -/
inductive ReadError
  | failed (e : Errno)
  | notText
  deriving DecidableEq

/-- Why no card was opened. -/
inductive OpenError
  | card (path : String) (e : Errno)
  | procFb (e : ReadError)
  | noFramebuffer
  | unknownFramebuffer (name : String)
  | noMatchingCard (driver : String)
  deriving DecidableEq

/-- Why an operation on buffers failed. -/
inductive Error
  | invalidFormat (raw : Int32)
  | invalidHandle
  | usageMismatch (declared requested : Usage)
  | incompatibleLock (lockedFor requested : Usage)
  | outOfMemory
  | backendUnavailable
  | unsupportedBackend (driver : String)
  | displayInitFailed (e : Errno)
  | kernel (e : Errno)
  | backend (e : BackendError)
  deriving DecidableEq

namespace MapError

/-- What a caller is told. -/
def message : MapError → String
  | emptyLength => "cannot map an empty buffer"
  | failed e => e.controlText

/-- The number of the failure; an empty mapping is an invalid argument. -/
def errno : MapError → Errno
  | emptyLength => .EINVAL
  | failed e => e

/-- The texts of what lies below, outermost first. -/
def causes : MapError → List String
  | emptyLength => []
  | failed e => [e.text]

end MapError

namespace DisplayError

/-- What a caller is told. -/
def message : DisplayError → String
  | failed e => e.controlText
  | noCrtc => "device has no CRTC to scan out from"

/-- The number of the failure; a card that scans out nothing is no device. -/
def errno : DisplayError → Errno
  | failed e => e
  | noCrtc => .ENODEV

end DisplayError

namespace VersionError

/-- What a caller is told. -/
def message : VersionError → String
  | failed e => e.controlText
  | invalidName => "driver name is not a valid C string"

/-- The number of the failure. -/
def errno : VersionError → Errno
  | failed e => e
  | invalidName => .EINVAL

end VersionError

namespace BackendError

/-- What a caller is told, the text of the lower layer at the end. -/
def message : BackendError → String
  | control e => e.controlText
  | mapping e => "mmap error: " ++ e.message
  | outOfMemory => "out of memory"
  | unsupported what => what ++ " is not supported by this backend"

/-- The number of the failure. -/
def errno : BackendError → Errno
  | control e => e
  | mapping e => e.errno
  | outOfMemory => .ENOMEM
  | unsupported _ => .EOPNOTSUPP

/-- The texts of what lies below, outermost first. -/
def causes : BackendError → List String
  | control e => [e.text]
  | mapping e => e.message :: e.causes
  | outOfMemory | unsupported _ => []

end BackendError

namespace ReadError

/-- What a caller is told. -/
def message : ReadError → String
  | failed e => e.fileText
  | notText => "stream did not contain valid UTF-8"

end ReadError

namespace OpenError

/-- What a caller is told. -/
def message : OpenError → String
  | card path e => "failed to open " ++ path ++ ": " ++ e.text
  | procFb e => "failed to read /proc/fb: " ++ e.message
  | noFramebuffer => "no framebuffer listed in /proc/fb"
  | unknownFramebuffer name => "no DRM driver known for framebuffer " ++ name
  | noMatchingCard driver => "no card driven by " ++ driver

/-- The texts of what lies below, outermost first. -/
def causes : OpenError → List String
  | procFb e => [e.message]
  | card .. | noFramebuffer | unknownFramebuffer _ | noMatchingCard _ => []

end OpenError

namespace Error

/-- What a caller is told, the text of the lower layer at the end. -/
def message : Error → String
  | invalidFormat raw => "unknown pixel format 0x" ++ Text.hex raw.toUInt32.toNat
  | invalidHandle => "buffer handle is not valid in this process"
  | usageMismatch declared requested =>
    "lock usage " ++ requested.text ++ " was not declared by buffer (usage " ++ declared.text ++ ")"
  | incompatibleLock lockedFor requested =>
    "buffer is locked for " ++ lockedFor.text ++ ", cannot lock for " ++ requested.text
  | outOfMemory => "out of memory"
  | backendUnavailable => "no backend available for the device"
  | unsupportedBackend driver => "unsupported driver: " ++ driver
  | displayInitFailed e => "failed to initialize display: " ++ e.text
  | kernel e => "kernel device error: " ++ e.text
  | backend e => "backend error: " ++ e.message

/-- The number of the failure. What passes on a failure keeps its number. -/
def errno : Error → Errno
  | invalidFormat _ | invalidHandle | usageMismatch .. | incompatibleLock ..
  | backendUnavailable | unsupportedBackend _ => .EINVAL
  | outOfMemory => .ENOMEM
  | displayInitFailed e | kernel e => e
  | backend e => e.errno

/-- The texts of what lies below, outermost first. -/
def causes : Error → List String
  | backend e => e.message :: e.causes
  | _ => []

end Error

end GraphicsBuffers
