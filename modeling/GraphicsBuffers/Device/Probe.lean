import GraphicsBuffers.Device.Card
import GraphicsBuffers.Text.Words
/-!
# Finding a card

A configuration names a card node, or asks for the card that drives the first framebuffer the
kernel lists. In the second case the framebuffer's name leads to a driver, and the card nodes are
opened one after the other until one is driven by it. A card that is not is closed before the next
is tried.
-/

namespace GraphicsBuffers

/-- Which card to open. -/
structure DeviceConfig where
  path : String := "/dev/dri/card0"
  /-- Whether to look for the card of the first framebuffer instead. -/
  probe : Bool := false
  deriving DecidableEq

namespace Probe

/-- The drivers behind the framebuffers that the kernel lists. -/
def framebufferDrivers : List (String × String) :=
  [("amdgpudrmfb", "amdgpu"), ("inteldrmfb", "i915"), ("nouveaufb", "nouveau"),
   ("radeondrmfb", "radeon"), ("svgadrmfb", "vmwgfx"), ("virtiodrmfb", "virtio_gpu")]

/-- How many card nodes are tried. -/
def maxCards : Nat := 16

/-- The path of the card node of a number. -/
def cardPath (n : Nat) : String := "/dev/dri/card" ++ toString n

/-- The name of the first framebuffer in the list: the second word of the first line. -/
def firstFramebuffer? (text : List Char) : Option String := do
  let line ← Text.firstLine? text
  let word ← Text.secondWord? line
  return String.ofList word

/-- The driver behind a framebuffer. -/
def driverOf? (framebuffer : String) : Option String :=
  (framebufferDrivers.find? (·.1 == framebuffer)).map (·.2)

/-- Opens a card node and keeps it open if `driver` is behind it. -/
def tryCard (driver path : String) : HostM (Option Card) := do
  match ← (Card.openAt path).run with
  | .error _ => return none
  | .ok card =>
    match ← (Device.version card.fd).run with
    | .ok info =>
      if info.name = driver then return some card
      card.release
      return none
    | .error _ =>
      card.release
      return none

/-- The first of `count` card nodes, from number `n` on, that `driver` is behind. -/
def search (driver : String) : (n count : Nat) → HostM (Option Card)
  | _, 0 => return none
  | n, count + 1 => do
    match ← tryCard driver (cardPath n) with
    | some card => return some card
    | none => search driver (n + 1) count

/-- The list of framebuffers as text. -/
def readFramebuffers : Attempt OpenError (List Char) := do
  let bytes ← explain (Host.call (·.readProcFb)) fun e => pure (.procFb (.failed e))
  match Text.Utf8.decode? bytes with
  | some text => return text
  | none => throw (.procFb .notText)

/-- Opens the card that drives the first framebuffer. -/
def openDriving : Attempt OpenError Card := do
  let text ← readFramebuffers
  let some framebuffer := firstFramebuffer? text | throw .noFramebuffer
  let some driver := driverOf? framebuffer | throw (.unknownFramebuffer framebuffer)
  match ← search driver 0 maxCards with
  | some card =>
    Host.report (.probed driver framebuffer card.path)
    return card
  | none => throw (.noMatchingCard driver)

end Probe

/-- Opens the card of a configuration. -/
def DeviceConfig.openCard (config : DeviceConfig) : Attempt OpenError Card :=
  if config.probe then Probe.openDriving else Card.openAt config.path

end GraphicsBuffers
