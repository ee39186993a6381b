import GraphicsBuffers.Device.Mapping
import GraphicsBuffers.Text.Utf8
/-!
# Cards

An opened card node. Several owners may share one: the host counts its holders, and the card is
closed when the last of them lets go. The driver behind a card is asked for its name in two steps,
first for the length and then for the bytes.
-/

namespace GraphicsBuffers

open Wire

/-- An opened card. -/
structure Card where
  fd : Int32
  path : String
  deriving DecidableEq

/-- A driver's version and name. -/
structure DriverInfo where
  major : Int32
  minor : Int32
  patch : Int32
  name : String
  deriving DecidableEq

/-- The bytes before the first NUL in memory of `size` bytes, which starts with `bytes` and is zero
behind them. `none` if there is no NUL. -/
def cString? (size : Nat) (bytes : Bytes) : Option Bytes :=
  if bytes.contains 0 || decide (bytes.length < size) then some (bytes.takeWhile (· != 0)) else none

namespace Card

/-! ## Opening, sharing and closing -/

/-- Opens the card node at `path`, with one holder. A path with a NUL in it names no file, and the
kernel is not asked. -/
def openAt (path : String) : Attempt OpenError Card := do
  if path.toList.contains '\x00' then throw (.card path .EINVAL)
  let fd ← explain (Host.call (·.openCard path)) fun e => pure (.card path e)
  modify fun h => { h with cardHolders := h.cardHolders.insert fd 1 }
  return ⟨fd, path⟩

/-- Adds a holder. -/
def hold (c : Card) : HostM Unit :=
  modify fun h =>
    { h with cardHolders := h.cardHolders.insert c.fd ((h.cardHolders.get? c.fd).getD 0 + 1) }

/-- Takes a holder away, and closes the card with the last one. -/
def release (c : Card) : HostM Unit := do
  match (← get).cardHolders.get? c.fd with
  | some (n + 2) =>
    modify fun h => { h with cardHolders := h.cardHolders.insert c.fd (n + 1) }
  | _ =>
    modify fun h => { h with cardHolders := h.cardHolders.erase c.fd }
    -- Nobody is left to be told that closing failed.
    let _ ← (Host.call (·.close c.fd)).run

end Card

/-! ## What a card is asked -/

namespace Device

/-- The version and name of the driver behind a file descriptor. Memory for the name is taken to be
had. There is none for a reported length of 2^63 - 1 or more, on which a process ends before it makes
the second request. -/
def version (fd : Int32) : Attempt VersionError DriverInfo := do
  let failed (e : Errno) : HostM VersionError := pure (.failed e)
  let first ← explain (Host.exchange fd .version) failed
  let (info, bytes) ← explain (Host.exchange fd (.versionName first.nameLength)) failed
  match cString? (first.nameLength.toNat + 1) bytes with
  | some name =>
    return ⟨info.major, info.minor, info.patch, String.ofList (Text.Utf8.decodeLossy name)⟩
  | none => throw .invalidName

/-- Checks that the card can drive a display at all, and answers its counts and limits. -/
def initDisplay (fd : Int32) : Attempt DisplayError CardResources := do
  let resources ← explain (Host.exchange fd .getResources) fun e => pure (.failed e)
  if resources.crtcs = 0 then throw .noCrtc
  return resources

end Device

end GraphicsBuffers
