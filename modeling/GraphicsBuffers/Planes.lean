import GraphicsBuffers.Address
/-!
# Planes

A buffer has up to four planes. `PlaneLayout` describes them to the display, and `Ycbcr` gives the
addresses of the luma and chroma samples of a locked two-plane buffer.
-/

namespace GraphicsBuffers

/-- The memory object, line length and offset of each of four planes; zeros where there is none. -/
structure PlaneLayout where
  handles : Vector UInt32 4
  pitches : Vector UInt32 4
  offsets : Vector UInt32 4
  deriving DecidableEq

/-- All pixels in one plane. -/
def PlaneLayout.single (handle pitch : UInt32) : PlaneLayout :=
  ⟨#v[handle, 0, 0, 0], #v[pitch, 0, 0, 0], #v[0, 0, 0, 0]⟩

/-- Where the samples of a locked buffer with interleaved chroma are. -/
structure Ycbcr where
  y : Address
  cb : Address
  cr : Address
  /-- Bytes from one luma line to the next. -/
  yStride : UInt64
  /-- Bytes from one chroma line to the next. -/
  cStride : UInt64
  /-- Bytes from one sample of a chroma component to the next. -/
  chromaStep : UInt64
  deriving DecidableEq

/-- The samples of a buffer at `base`: chroma pairs follow the `height` lines of luma, blue
difference first. -/
def Ycbcr.at (base : Address) (stride height : UInt32) : Ycbcr :=
  let cb := base.advance (stride.toUInt64 * height.toUInt64)
  ⟨base, cb, cb.advance 1, stride.toUInt64, stride.toUInt64, 2⟩

end GraphicsBuffers
