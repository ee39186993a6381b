import GraphicsBuffers.AllocationTest.Arguments
import GraphicsBuffers.Device.Probe
import GraphicsBuffers.Text.Decimal
/-!
# Settings of the allocation test

What the arguments ask for, once sizes and formats are read: which card, and a buffer of what size,
format and usage.
-/

namespace GraphicsBuffers.AllocationTest

/-- What the program does. -/
structure Settings where
  device : DeviceConfig
  width : UInt32
  height : UInt32
  format : PixelFormat
  usage : Usage
  deriving DecidableEq

/-- Why arguments ask for nothing that can be done. -/
inductive SettingsError
  | invalidFrameSize (text : String)
  | invalidNumber (r : Text.Decimal.Refusal)
  | emptyFrame
  | unsupportedFormat (text : String)
  deriving DecidableEq

/-- What is printed of the refusal. -/
def SettingsError.message : SettingsError → String
  | invalidFrameSize text => "invalid frame size " ++ text
  | invalidNumber r => r.message
  | emptyFrame => "frame size cannot be empty"
  | unsupportedFormat text => "unsupported format " ++ text

/-- A number of a frame size. -/
def readNumber (text : List Char) : Except SettingsError UInt32 :=
  (Text.Decimal.word32 text).mapError .invalidNumber

/-- A width and a height with an `x` between them, neither of them zero. -/
def readFrameSize (text : String) : Except SettingsError (UInt32 × UInt32) := do
  let (before, after) := splitAt 'x' text.toList
  let some after := after | throw (.invalidFrameSize text)
  let width ← readNumber before
  let height ← readNumber after
  if width = 0 ∨ height = 0 then throw .emptyFrame
  return (width, height)

/-- The formats that can be asked for. -/
def formats : List (String × PixelFormat) :=
  [("rgba8888", .rgba8888), ("rgbx8888", .rgbx8888), ("bgra8888", .bgra8888), ("rgb565", .rgb565),
   ("nv12", .ycbcr420)]

/-- The format of a name. -/
def readFormat (text : String) : Except SettingsError PixelFormat :=
  match formats.find? (·.1 == text) with
  | some (_, format) => .ok format
  | none => .error (.unsupportedFormat text)

/-- The usage of the buffer: software writes and reads it, and it may be scanned out. -/
def usageOf (scanout : Bool) : Usage :=
  let base := Usage.swReadOften ||| .swWriteOften ||| .hwTexture
  if scanout then base ||| .hwFb else base

/-- The card that arguments ask for. -/
def Arguments.config (a : Arguments) : DeviceConfig :=
  let base : DeviceConfig := { probe := a.probe }
  match a.device with
  | some path => { base with path }
  | none => base

/-- The settings that arguments ask for. -/
def Arguments.settings (a : Arguments) : Except SettingsError Settings := do
  let (width, height) ← readFrameSize a.frameSize
  let format ← readFormat a.format
  return { device := a.config, width, height, format, usage := usageOf a.scanout }

end GraphicsBuffers.AllocationTest
