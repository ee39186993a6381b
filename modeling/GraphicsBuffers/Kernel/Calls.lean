import GraphicsBuffers.Kernel.Control
/-!
# System calls

The calls a process makes, each an effect on the kernel that may be refused. A refused call leaves
the kernel as it was but for the trace.
-/

namespace GraphicsBuffers

open Wire

namespace Kernel

/-! ## File descriptors -/

/-- Whether calls on a file descriptor are watched. The numbers from 0 to 999 are for ordinary
files, and calls on those are neither recorded nor made to fail. -/
def isWatched (fd : Int32) : Bool := decide (fd < 0) || decide (1000 ≤ fd)

/-- Whether a file descriptor is an open dma-buf. -/
def isDmaBuf (k : Kernel) (fd : Int32) : Bool := k.dmabufs.any fun d => decide (d.fd = fd)

/-- The first number that is free for an ordinary file. -/
def freeDescriptor? (k : Kernel) : Option Int32 :=
  ((List.range 1000).map Int32.ofNat).find? fun fd => !k.ordinaryFiles.contains fd

/-- The outcome of a call on an ordinary file: `onOpen`, if it is open at all. -/
def onOrdinary {α : Type} (k : Kernel) (fd : Int32) (onOpen : Except Errno α) : Except Errno α :=
  if k.ordinaryFiles.contains fd then onOpen else .error .EBADF

/-! ## Opening and closing -/

/-- Reads the list of framebuffers. -/
def readProcFb (k : Kernel) : Except Errno Bytes × Kernel :=
  (k.procFb, k.record (.kernel .openProcFb (k.procFb.map fun _ => .number 0)))

/-- Opens the list of framebuffers as an ordinary file. -/
def openProcFb (k : Kernel) : Except Errno Int32 × Kernel :=
  match k.readProcFb with
  | (.error e, k) => (.error e, k)
  | (.ok _, k) =>
    match k.freeDescriptor? with
    | some fd => (.ok fd, { k with ordinaryFiles := fd :: k.ordinaryFiles })
    | none => (.error .EMFILE, k)

/-- Opens the node at a path. -/
def openCard (k : Kernel) (path : String) : Except Errno Int32 × Kernel :=
  if path = procFbPath then k.openProcFb
  else
    match k.cards.findIdx? fun c => c.path == path with
    | none =>
      if k.recordsOtherPaths then
        k.perform .openCard (.openCard path) (.number ·.toInt) fun _ => .error .ENOENT
      else (.error .ENOENT, k)
    | some index =>
      k.perform .openCard (.openCard path) (.number ·.toInt) fun k =>
        match k.cards[index]?.bind (·.openFailure) with
        | some e => .error e
        | none =>
          if k.nextFd < 0x80000000 then
            let fd := Int32.ofNat k.nextFd
            .ok (fd, { k with files := k.files.insert fd index, nextFd := k.nextFd + 1 })
          else .error .EMFILE

/-- Closes a file descriptor. -/
def close (k : Kernel) (fd : Int32) : Except Errno Unit × Kernel :=
  if isWatched fd then
    k.perform .close (.close fd) (fun _ => .number 0) fun k =>
      if k.files.contains fd then .ok ((), { k with files := k.files.erase fd })
      else if k.isDmaBuf fd then
        .ok ((), { k with dmabufs := k.dmabufs.filter fun d => decide (d.fd ≠ fd) })
      else .error .EBADF
  else
    (k.onOrdinary fd (.ok ()), { k with ordinaryFiles := k.ordinaryFiles.erase fd })

/-- Asks for the flags of a file descriptor. Of the watched ones, only dma-bufs are recorded. -/
def descriptorFlags (k : Kernel) (fd : Int32) : Except Errno Unit × Kernel :=
  if !isWatched fd then (k.onOrdinary fd (.ok ()), k)
  else if k.files.contains fd then (.ok (), k)
  else
    k.perform .descriptorFlags (.descriptorFlags fd) (fun _ => .number 0) fun k =>
      if k.isDmaBuf fd then .ok ((), k) else .error .EBADF

/-- The offset of the end of a dma-buf. Offsets are signed, so a size of 2^63 or more wraps to a
negative one. -/
def endOfDmaBuf (k : Kernel) (fd : Int32) : Except Errno Int64 :=
  match k.dmabufs.find? fun d => decide (d.fd = fd) with
  | none => .error .EBADF
  | some ⟨_, _, some e⟩ => .error e
  | some ⟨_, size, none⟩ => .ok size.toInt64

/-- Seeks to the end of a dma-buf and answers its offset. An ordinary file has no end to seek to. -/
def seekEnd (k : Kernel) (fd : Int32) : Except Errno Int64 × Kernel :=
  if isWatched fd then
    let outcome := k.endOfDmaBuf fd
    (outcome, k.record (.kernel (.seekEnd fd) (outcome.map fun n => .number n.toInt)))
  else (k.onOrdinary fd (.error .ESPIPE), k)

/-! ## Mapping and control -/

/-- The object that an offset of the card's map space lies in, and the place in it: every handle
has 2^32 bytes of that space. -/
def mapSource (k : Kernel) (offset : UInt64) : Option (Nat × Nat) :=
  (k.handles.get? (UInt32.ofNat (offset.toNat / UInt32.size))).map fun object =>
    (object, offset.toNat % UInt32.size)

/-- Maps part of a card's memory. An ordinary file cannot be mapped. -/
def map (k : Kernel) (fd : Int32) (offset length : UInt64) (writable : Bool) :
    Except Errno Nat × Kernel :=
  if !isWatched fd then (k.onOrdinary fd (.error .ENODEV), k)
  else
    k.perform .map (.map fd offset length writable) .mapping fun k =>
      if !k.files.contains fd then .error .EBADF
      else if offset.toNat % 4096 ≠ 0 then .error .EINVAL
      else if 0x1000000000 < length.toNat then .error .ENOMEM
      else
        .ok (k.nextMapping, { k with
          mappings := k.mappings.insert k.nextMapping ⟨length, writable, k.mapSource offset⟩
          nextMapping := k.nextMapping + 1 })

/-- Removes a mapping. -/
def unmap (k : Kernel) (mapping : Nat) (length : UInt64) : Except Errno Unit × Kernel :=
  k.perform .unmap (.unmap mapping length) (fun _ => .number 0) fun k =>
    if k.mappings.contains mapping then
      .ok ((), { k with mappings := k.mappings.erase mapping })
    else .error .EINVAL

/-- Sends a control request with its structure. Answers the structure as the kernel leaves it, and
the bytes that the kernel put behind the structure's pointer. -/
def control (k : Kernel) (fd : Int32) (request : Request) (argument : Bytes) :
    Except Errno Reply × Kernel :=
  if !isWatched fd then (k.onOrdinary fd (.error .ENOTTY), k)
  else
    k.perform (.control request) (.control fd request argument) (.reply ·.bytes) fun k =>
      match k.files.get? fd with
      | some index =>
        match k.cards[index]? with
        | some card => k.serve index card request argument
        | none => .error .EBADF
      | none => .error (if k.isDmaBuf fd then .ENOTTY else .EBADF)

/-! ## Access to mapped memory -/

/-- The mapping that an address is in, if `length` bytes from it on lie inside. -/
def rangeAt? (k : Kernel) (address : Address) (length : Nat) : Option MappedRange :=
  match address.base with
  | .absolute => none
  | .mapping id =>
    (k.mappings.get? id).filter fun m =>
      decide (address.offset.toNat + length ≤ m.length.toNat)

/-- Writes `length` bytes from an address on. `none` if they are not all inside one live mapping
that may be written. -/
def store? (k : Kernel) (address : Address) (length : Nat) (byte : Nat → UInt8) :
    Option Kernel := do
  let range ← (k.rangeAt? address length).filter (·.writable)
  return match range.source with
    | none => k
    | some (object, start) =>
      { k with objects := k.objects.modify object fun o =>
          { o with contents := ⟨start + address.offset.toNat, length, byte⟩ :: o.contents } }

/-- Reads the byte at an address. `none` if it is not inside a live mapping. -/
def load? (k : Kernel) (address : Address) : Option UInt8 := do
  let range ← k.rangeAt? address 1
  return match range.source with
    | none => 0
    | some (object, start) =>
      (k.objects[object]?.map fun o => o.contents.get (start + address.offset.toNat)).getD 0

/-- Whether the memory of a live mapping is all zeros. -/
def isZeroMapping (k : Kernel) (mapping : Nat) : Bool :=
  match k.mappings.get? mapping with
  | some ⟨length, _, some (object, start)⟩ =>
    match k.objects[object]? with
    | some o => o.contents.isZero start length.toNat
    | none => true
  | some ⟨_, _, none⟩ | none => true

end Kernel

end GraphicsBuffers
