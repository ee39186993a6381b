/-!
# Regions

The part of a buffer that a lock asks for.
-/

namespace GraphicsBuffers

/-- A rectangle of pixels. -/
structure Region where
  left : Int32 := 0
  top : Int32 := 0
  width : UInt32 := 0
  height : UInt32 := 0
  deriving DecidableEq

/-- The corner between parentheses, then the size. -/
def Region.text (r : Region) : String :=
  "(" ++ toString r.left.toInt ++ ", " ++ toString r.top.toInt ++ "), "
    ++ toString r.width.toNat ++ "x" ++ toString r.height.toNat

end GraphicsBuffers
