import GraphicsBuffers.Fourcc
import GraphicsBuffers.Word
/-!
# Pixel formats and geometry

The formats the allocator knows, each with a number shared between processes, and the geometry of
a buffer: its width and height rounded up to what the format needs, with the lines of the chroma
planes added below the luma plane. All of it is in 32-bit words, and a geometry that does not fit
is refused.
-/

namespace GraphicsBuffers

/-- The formats a buffer may have. -/
inductive PixelFormat
  | rgba8888 | rgbx8888 | rgb888 | rgb565 | bgra8888
  | ycbcr422Sp | ycrcb420Sp | ycbcr422I | ycbcr420 | yv12
  deriving DecidableEq, Inhabited

namespace PixelFormat

/-- Every format, in the order of their numbers. -/
def all : List PixelFormat :=
  [rgba8888, rgbx8888, rgb888, rgb565, bgra8888, ycbcr422Sp, ycrcb420Sp, ycbcr422I, ycbcr420, yv12]

/-- The number that stands for the format between processes. -/
def raw : PixelFormat → Int32
  | rgba8888 => 1
  | rgbx8888 => 2
  | rgb888 => 3
  | rgb565 => 4
  | bgra8888 => 5
  | ycbcr422Sp => 0x10
  | ycrcb420Sp => 0x11
  | ycbcr422I => 0x14
  | ycbcr420 => 0x23
  | yv12 => 0x32315659

/-- The format with the given number. -/
def ofRaw? (n : Int32) : Option PixelFormat := all.find? fun f => decide (f.raw = n)

/-- The name of the format. -/
def name : PixelFormat → String
  | rgba8888 => "Rgba8888"
  | rgbx8888 => "Rgbx8888"
  | rgb888 => "Rgb888"
  | rgb565 => "Rgb565"
  | bgra8888 => "Bgra8888"
  | ycbcr422Sp => "YCbCr_422_SP"
  | ycrcb420Sp => "YCrCb_420_SP"
  | ycbcr422I => "YCbCr_422_I"
  | ycbcr420 => "YCbCr_420_888"
  | yv12 => "Yv12"

/-- Bytes a pixel takes in the first plane. -/
def bytesPerPixel : PixelFormat → UInt32
  | rgba8888 | rgbx8888 | bgra8888 => 4
  | rgb888 => 3
  | rgb565 | ycbcr422I => 2
  | ycbcr422Sp | ycrcb420Sp | ycbcr420 | yv12 => 1

/-- Whether chroma is kept in planes of its own, below the luma plane. -/
def isPlanar (f : PixelFormat) : Bool := f.bytesPerPixel == 1

/-- The code under which a buffer of this format is scanned out. -/
def fourcc : PixelFormat → Fourcc
  | rgba8888 => .ofText "AB24"
  | rgbx8888 => .ofText "XB24"
  | rgb888 => .ofText "BG24"
  | rgb565 => .ofText "RG16"
  | bgra8888 => .ofText "AR24"
  | ycbcr422Sp => .ofText "NV16"
  | ycrcb420Sp => .ofText "NV21"
  | ycbcr422I => .ofText "YUYV"
  | ycbcr420 => .ofText "NV12"
  | yv12 => .ofText "YV12"

/-- What widths and heights of a format are rounded to, both powers of two. -/
structure Alignment where
  width : UInt32
  height : UInt32

/-- The rounding of the format. -/
def alignment : PixelFormat → Alignment
  | yv12 => ⟨32, 2⟩
  | ycbcr422Sp | ycbcr422I => ⟨2, 1⟩
  | ycrcb420Sp | ycbcr420 => ⟨2, 2⟩
  | rgba8888 | rgbx8888 | rgb888 | rgb565 | bgra8888 => ⟨1, 1⟩

/-- The lines that the chroma planes add below `luma` lines of luma. -/
def chromaLines (f : PixelFormat) (luma : UInt32) : UInt32 :=
  match f with
  | yv12 | ycrcb420Sp | ycbcr420 => luma / 2
  | ycbcr422Sp => luma
  | ycbcr422I | rgba8888 | rgbx8888 | rgb888 | rgb565 | bgra8888 => 0

end PixelFormat

/-- What is allocated for a buffer once its format's rounding is applied. -/
structure Geometry where
  width : UInt32
  /-- Lines to allocate, those of the chroma planes included. -/
  height : UInt32
  /-- Lines of the first plane. -/
  planarHeight : UInt32
  deriving DecidableEq

namespace Geometry

/-- Bytes a line takes when pixels are packed tightly. -/
def minStride? (g : Geometry) (f : PixelFormat) : Option UInt32 :=
  Word.mul? g.width f.bytesPerPixel

/-- Bytes all lines cover when they are `stride` bytes apart. -/
def size? (g : Geometry) (stride : UInt32) : Option UInt32 := Word.mul? stride g.height

/-- Bytes the buffer covers when its lines are packed tightly. -/
def minSize? (g : Geometry) (f : PixelFormat) : Option UInt32 := do g.size? (← g.minStride? f)

end Geometry

/-- The geometry of a buffer of `width` by `height` pixels, if it fits in 32-bit words. -/
def PixelFormat.geometry? (f : PixelFormat) (width height : UInt32) : Option Geometry := do
  let w ← Word.align? width f.alignment.width
  let luma ← Word.align? height f.alignment.height
  let lines ← Word.add? luma (f.chromaLines luma)
  return ⟨w, lines, luma⟩

end GraphicsBuffers
