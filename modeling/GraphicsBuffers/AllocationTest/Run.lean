import GraphicsBuffers.Allocator
import GraphicsBuffers.AllocationTest.Settings
import GraphicsBuffers.World
/-!
# The allocation test

The program allocates a buffer, fills every line of it with the line's number, reads the last line
back and gives the buffer up. Whatever goes wrong, the allocator is closed before the program ends,
and with it all that the program holds. The one exception is an access outside of mapped memory,
which ends the process where it stands.
-/

namespace GraphicsBuffers.AllocationTest

/-- Why the program fails. -/
inductive Failure
  /-- The card or the display could not be brought up. -/
  | initialization (e : Error)
  | allocator (e : Error)
  /-- A lock for software access answered no address. -/
  | notMapped
  /-- The last line does not hold what was written. -/
  | wrongContents (byte : UInt8)
  /-- An access outside of mapped memory. -/
  | fault
  deriving DecidableEq

/-- A computation of the program on its allocator. -/
abbrev Program := ExceptT Failure AllocatorM

/-! ## Access to memory -/

/-- Fills memory. -/
def store (address : Address) (length : Nat) (byte : Nat → UInt8) : Program Unit := do
  let p ← getThe Process
  match p.host.kernel.store? address length byte with
  | some kernel =>
    modifyThe Process fun p => { p with host := { p.host with kernel } }
  | none => throw .fault

/-- Reads one byte. -/
def load (address : Address) : Program UInt8 := do
  match (← getThe Process).host.kernel.load? address with
  | some byte => return byte
  | none => throw .fault

/-! ## The test -/

/-- The byte that fills the line of a number. -/
def lineByte (line : Nat) : UInt8 := UInt8.ofNat (line % 256)

/-- Calls the allocator. -/
def use {α : Type} (x : ExceptT Error AllocatorM α) : Program α :=
  explain x fun e => pure (.allocator e)

/-- Locks the buffer and answers its address. -/
def lockMapped (d : Descriptor) (usage : Usage) : Program Address := do
  match ← use (Allocator.lock d usage ⟨0, 0, d.width, d.height⟩) with
  | some address => return address
  | none => throw .notMapped

/-- The number of bytes of all lines of a buffer. -/
def bytes (d : Descriptor) : Nat := d.stride.toNat * d.height.toNat

/-- Where the last one of them is, if they begin at `start`. -/
def lastByte (d : Descriptor) (start : Address) : Address :=
  start.advance (UInt64.ofNat (bytes d - 1))

/-- Fills the lines of a buffer. -/
def fill (d : Descriptor) : Program Unit := do
  let address ← lockMapped d .swWriteOften
  store address (bytes d) fun i => lineByte (i / d.stride.toNat)
  Allocator.unlock d

/-- Checks the last byte of the last line. -/
def check (d : Descriptor) : Program Unit := do
  let address ← lockMapped d .swReadOften
  let last ← load (lastByte d address)
  if last ≠ lineByte (d.height.toNat - 1) then throw (.wrongContents last)
  Allocator.unlock d

/-- Allocates a buffer, fills and checks it, and gives it up. -/
def test (s : Settings) : Program Unit := do
  explain (Allocator.onContext (Context.ensureReady s.usage.needsFramebuffer)) fun e =>
    pure (.initialization e)
  let (d, _) ← use (Allocator.create s.width s.height s.format.raw s.usage)
  let _ ← use (Allocator.planes d)
  fill d
  check d
  use (Allocator.dropLocal d)

/-- Runs the test on an allocator of its own, which is closed at the end. -/
def run (s : Settings) : ProcessM (Except Failure Unit) := do
  let (outcome, allocator) ← (test s).run.run (.ofConfig s.device)
  match outcome with
  | .error .fault => return outcome
  | _ =>
    -- It has one buffer at most, so there is but one order.
    let _ ← (Allocator.dispose []).run allocator
    return outcome

end GraphicsBuffers.AllocationTest
