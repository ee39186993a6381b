import GraphicsBuffers.PixelFormat
import GraphicsBuffers.Usage
import GraphicsBuffers.Planes
/-!
# Buffer descriptors

A descriptor is the shareable handle of a buffer: its geometry, format, declared usage and the
memory behind it. It owns nothing. The memory it names, if it can be valid at all, is the key
under which a process registers the buffer.
-/

namespace GraphicsBuffers

/-- The identity of a buffer's memory. -/
inductive MemoryRef
  /-- A global name, good on every open card of the device. -/
  | name (n : UInt32)
  /-- A file descriptor received from another process. -/
  | prime (fd : Int32)
  deriving DecidableEq

namespace MemoryRef

/-- Whether the reference can designate memory. -/
def isValid : MemoryRef → Bool
  | name n => n != 0
  | prime fd => decide (0 ≤ fd)

/-- The kind of reference and its number. -/
def text : MemoryRef → String
  | name n => "Name(" ++ toString n.toNat ++ ")"
  | prime fd => "Prime(" ++ toString fd.toInt ++ ")"

/-- A reference that may be missing. -/
def optionText : Option MemoryRef → String
  | none => "None"
  | some m => "Some(" ++ m.text ++ ")"

end MemoryRef

/-- The description of a buffer. -/
structure Descriptor where
  width : UInt32
  height : UInt32
  /-- Bytes from one line of the first plane to the next. -/
  stride : UInt32 := 0
  /-- Lines of the first plane. -/
  planarHeight : UInt32 := height
  format : PixelFormat
  /-- The usage declared when the buffer was allocated. -/
  usage : Usage
  /-- The memory behind the buffer, once there is any. -/
  memory : Option MemoryRef := none
  deriving DecidableEq

namespace Descriptor

/-- The description completed with the memory and stride of the allocation. -/
def withMemory (d : Descriptor) (memory : MemoryRef) (stride : UInt32) : Descriptor :=
  { d with memory := some memory, stride }

/-- The key of the buffer, if it designates memory. -/
def key? (d : Descriptor) : Option MemoryRef := d.memory.filter MemoryRef.isValid

/-- Whether a buffer can be rebuilt from the descriptor. -/
def isValid (d : Descriptor) : Bool := d.key?.isSome

/-- Bytes the lines of the buffer cover at its stride, if that fits in 32 bits. -/
def byteSize? (d : Descriptor) : Option UInt32 := do
  (← d.format.geometry? d.width d.height).size? d.stride

/-- The global name, or 0. -/
def gemName (d : Descriptor) : UInt32 :=
  match d.memory with
  | some (.name n) => n
  | _ => 0

/-- The file descriptor of the memory, or -1. -/
def primeFd (d : Descriptor) : Int32 :=
  match d.memory with
  | some (.prime fd) => fd
  | _ => -1

/-- Bytes from one line of a third-size chroma plane to the next: half the luma stride, rounded up
to a multiple of 16. -/
def chromaStride (d : Descriptor) : UInt32 := (d.stride / 2 + 15) &&& ~~~15

/-- The planes of a linear buffer that keeps them all in the object `handle`. `none` for formats of
a single plane, and where an offset does not fit in 32 bits. -/
def linearPlanes? (d : Descriptor) (handle : UInt32) : Option PlaneLayout := do
  let luma ← Word.mul? d.stride d.planarHeight
  match d.format with
  | .ycbcr420 | .ycrcb420Sp | .ycbcr422Sp =>
    return ⟨#v[handle, handle, 0, 0], #v[d.stride, d.stride, 0, 0], #v[0, luma, 0, 0]⟩
  | .yv12 =>
    let c := d.chromaStride
    let chroma ← Word.mul? c (d.planarHeight / 2)
    -- Red difference comes before blue difference.
    let second ← Word.add? luma chroma
    return ⟨#v[handle, handle, handle, 0], #v[d.stride, c, c, 0], #v[0, luma, second, 0]⟩
  | _ => none

end Descriptor

end GraphicsBuffers
