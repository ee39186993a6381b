import GraphicsBuffers.Table
import GraphicsBuffers.Trace
import GraphicsBuffers.Wire.Exchange
/-!
# The state of the kernel

The kernel the allocator talks to: the card nodes, the memory objects with their handles and global
names, open files, framebuffers, mappings, and the faults that are to be injected. Handles,
framebuffers, mappings and the file descriptors of cards are numbered by counters that only grow, so
a number is given out once.
-/

namespace GraphicsBuffers

open Wire

/-! ## Memory contents -/

/-- A range of bytes that was written at once. -/
structure Written where
  start : Nat
  length : Nat
  /-- The byte at each distance from the start. -/
  byte : Nat → UInt8

/-- The contents of an object: what was written, the newest first, over zeros. -/
abbrev Contents := List Written

/-- The byte at a position. -/
def Contents.get (c : Contents) (i : Nat) : UInt8 :=
  match c.find? fun w => decide (w.start ≤ i ∧ i < w.start + w.length) with
  | some w => w.byte (i - w.start)
  | none => 0

/-- Whether all bytes of a range are zero. -/
def Contents.isZero (c : Contents) (start length : Nat) : Bool :=
  c.isEmpty || (List.range length).all fun i => c.get (start + i) == 0

/-! ## Sizes -/

namespace Kernel

/-- The smallest multiple of `unit` that is not below `n`; `n` itself if the unit is 0. -/
def roundUp (n unit : Nat) : Nat := if unit = 0 then n else (n + unit - 1) / unit * unit

theorem le_roundUp (n : Nat) {unit : Nat} (positive : 0 < unit) : n ≤ roundUp n unit := by
  have := Nat.div_add_mod (n + unit - 1) unit
  have := Nat.mod_lt (n + unit - 1) positive
  rw [roundUp, if_neg (Nat.ne_of_gt positive), Nat.mul_comm]
  omega

theorem roundUp_lt (n : Nat) {unit : Nat} (positive : 0 < unit) : roundUp n unit < n + unit := by
  have := Nat.div_mul_le_self (n + unit - 1) unit
  rw [roundUp, if_neg (Nat.ne_of_gt positive)]
  omega

end Kernel

/-- How many bytes a driver allocates for a number of lines of a length: no fewer than they take. -/
structure SizeRule where
  size (pitch height : UInt32) : UInt64
  holds (pitch height : UInt32) : pitch.toNat * height.toNat ≤ (size pitch height).toNat

/-- Whole pages of 4096 bytes. -/
def SizeRule.pages : SizeRule where
  size pitch height := UInt64.ofNat (Kernel.roundUp (pitch.toNat * height.toNat) 4096)
  holds pitch height := by
    have lines : pitch.toNat * height.toNat ≤ 4294967295 * 4294967295 :=
      Nat.mul_le_mul (Nat.le_of_lt_succ pitch.toNat_lt) (Nat.le_of_lt_succ height.toNat_lt)
    have above := Kernel.le_roundUp (pitch.toNat * height.toNat) (show 0 < 4096 by decide)
    have below := Kernel.roundUp_lt (pitch.toNat * height.toNat) (show 0 < 4096 by decide)
    rw [UInt64.toNat_ofNat_of_lt' (by simp only [UInt64.size]; omega)]
    exact above

/-! ## Things -/

/-- A card node and the driver behind it. -/
structure CardNode where
  path : String := "/dev/dri/card0"
  /-- The name the driver gives. -/
  driver : Bytes
  /-- What opening the node fails with, if it fails. -/
  openFailure : Option Errno := none
  /-- The length of the name the driver reports, if not the true one. -/
  reportedLength : Option UInt64 := none
  major : Int32 := 1
  minor : Int32 := 0
  patch : Int32 := 0
  magic : UInt32 := 4660
  /-- What the driver rounds line lengths to. -/
  pitchAlign : Nat := 64
  sizes : SizeRule := .pages
  resources : CardResources := {}
  /-- Whether some client is the master. -/
  hasMaster : Bool := false

/-- A memory object. -/
structure MemoryObject where
  size : UInt64
  /-- Whether it was allocated elsewhere, and so outlives its handles here. -/
  foreign : Bool
  /-- Its global name, or 0. -/
  name : UInt32 := 0
  contents : Contents := []

/-- An open file descriptor on memory shared by another process. -/
structure DmaBuf where
  fd : Int32
  size : UInt64
  /-- What seeking fails with, if the exporter does not support it. -/
  seekFailure : Option Errno := none
  deriving DecidableEq

/-- A live mapping. -/
structure MappedRange where
  length : UInt64
  writable : Bool
  /-- The object mapped and where the mapping starts in it, if the offset designates one. -/
  source : Option (Nat × Nat)
  deriving DecidableEq

/-! ## Faults -/

/-- A kind of call that can be made to fail. -/
inductive FaultPoint
  | openCard | close | descriptorFlags | map | unmap
  | control (request : Request)
  deriving DecidableEq

namespace FaultPoint

/-- Every kind of call that can be made to fail. -/
def all : List FaultPoint :=
  [openCard, close, descriptorFlags, map, unmap] ++ Request.all.map control

/-- The name the kind of call is shown under. -/
def name : FaultPoint → String
  | openCard => "open"
  | close => "close"
  | descriptorFlags => "fcntl"
  | map => "mmap"
  | unmap => "munmap"
  | control request => request.name

/-- The kind of call of that name. -/
def ofName? (s : String) : Option FaultPoint := all.find? fun p => p.name == s

end FaultPoint

/-- A failure to inject: after `skip` calls, the next `times` calls fail with `errno`. -/
structure Fault where
  errno : Errno
  skip : Nat := 0
  /-- How often it fails; `none` for ever. -/
  times : Option Nat := none
  deriving DecidableEq

/-- Failures of the calls of one kind, one after the other: each is counted from where the one before
it is over. -/
abbrev FaultPlan := List Fault

/-- What the next call is made to fail with, if anything, and the plan for the calls after it. -/
def FaultPlan.next : FaultPlan → Option Errno × FaultPlan
  | [] => (none, [])
  | ⟨errno, skip + 1, times⟩ :: later => (none, ⟨errno, skip, times⟩ :: later)
  | ⟨errno, 0, none⟩ :: later => (some errno, ⟨errno, 0, none⟩ :: later)
  | ⟨errno, 0, some (n + 1)⟩ :: later => (some errno, ⟨errno, 0, some n⟩ :: later)
  | ⟨_, 0, some 0⟩ :: later => next later

/-! ## The kernel -/

/-- The state of the kernel. -/
structure Kernel where
  cards : List CardNode := []
  procFb : Except Errno Bytes := .error .ENOENT
  /-- All objects ever made; an object's place in the list is its identity. -/
  objects : List MemoryObject := []
  /-- Which object a global name designates. -/
  names : Table UInt32 Nat := .empty
  /-- Which object a handle is on. -/
  handles : Table UInt32 Nat := .empty
  /-- The dma-bufs still open. -/
  dmabufs : List DmaBuf := []
  /-- Which card node a file descriptor is open on. -/
  files : Table Int32 Nat := .empty
  /-- The descriptors of open ordinary files, the standard streams among them. -/
  ordinaryFiles : List Int32 := [0, 1, 2]
  framebuffers : List UInt32 := []
  mappings : Table Nat MappedRange := .empty
  nextFd : Nat := 1000
  nextHandle : Nat := 1
  nextFramebuffer : Nat := 40
  nextMapping : Nat := 1
  nextName : UInt32 := 1
  faults : Table FaultPoint FaultPlan := .empty
  /-- Whether opening a path that is no card node is recorded. -/
  recordsOtherPaths : Bool := true
  /-- The recorded calls, the newest first. -/
  trace : List TraceEntry := []

namespace Kernel

/-- Adds an entry to the trace. -/
def record (k : Kernel) (entry : TraceEntry) : Kernel := { k with trace := entry :: k.trace }

/-- Sets up failures of a kind of call, in place of earlier ones. -/
def armFaults (k : Kernel) (point : FaultPoint) (plan : FaultPlan) : Kernel :=
  { k with faults := k.faults.insert point plan }

/-- Removes every failure that is set up. -/
def clearFaults (k : Kernel) : Kernel := { k with faults := .empty }

/-- What the next call of a kind is made to fail with, if anything, and the kernel once that call
is counted. -/
def takeFault (k : Kernel) (point : FaultPoint) : Option Errno × Kernel :=
  match k.faults.get? point with
  | none => (none, k)
  | some plan => (plan.next.1, { k with faults := k.faults.insert point plan.next.2 })

/-- Makes a call: an injected failure comes first and has no effect, and so does a refusal of
`effect`; otherwise the call has its effect. Either way the call is recorded with its outcome. -/
def perform {α : Type} (k : Kernel) (point : FaultPoint) (call : Call) (answer : α → Answer)
    (effect : Kernel → Except Errno (α × Kernel)) : Except Errno α × Kernel :=
  match k.takeFault point with
  | (some e, k) => (.error e, k.record (.kernel call (.error e)))
  | (none, k) =>
    match effect k with
    | .error e => (.error e, k.record (.kernel call (.error e)))
    | .ok (a, k) => (.ok a, k.record (.kernel call (.ok (answer a))))

end Kernel

end GraphicsBuffers
