import GraphicsBuffers.Text.Hex
/-!
# Four-character codes

Scanout formats are named by four bytes, the first of them the lowest of a 32-bit word.
-/

namespace GraphicsBuffers

/-- A four-character format code. -/
structure Fourcc where
  value : UInt32
  deriving DecidableEq

namespace Fourcc

/-- The code whose characters are the given bytes, in order. -/
def ofBytes (a b c d : UInt8) : Fourcc :=
  ⟨a.toUInt32 ||| b.toUInt32 <<< 8 ||| c.toUInt32 <<< 16 ||| d.toUInt32 <<< 24⟩

/-- The four bytes, in order. -/
def bytes (f : Fourcc) : List UInt8 :=
  [f.value.toUInt8, (f.value >>> 8).toUInt8, (f.value >>> 16).toUInt8, (f.value >>> 24).toUInt8]

/-- The code spelled by the first four characters of an ASCII text. -/
def ofText (s : String) : Fourcc :=
  let byte (i : Nat) : UInt8 := (s.toList.getD i ' ').toNat.toUInt8
  ofBytes (byte 0) (byte 1) (byte 2) (byte 3)

/-- Each byte as the character of that number. -/
def text (f : Fourcc) : String := String.ofList (f.bytes.map fun b => Char.ofNat b.toNat)

/-- The number in hexadecimal, then the characters. -/
def fullText (f : Fourcc) : String :=
  "0x" ++ Text.hexPadded 8 f.value.toNat ++ " (" ++ f.text ++ ")"

end Fourcc

end GraphicsBuffers
