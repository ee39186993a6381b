/-!
# Hexadecimal text

Numbers in lower-case hexadecimal, and byte strings as two digits a byte.
-/

namespace GraphicsBuffers.Text

/-- The digits of `n` in base 16, at least one. -/
def hex (n : Nat) : String := String.ofList (Nat.toDigits 16 n)

/-- The digits of `n` in base 16, with zeros in front up to `width` digits. -/
def hexPadded (width n : Nat) : String :=
  let digits := Nat.toDigits 16 n
  String.ofList (List.replicate (width - digits.length) '0' ++ digits)

/-- Two digits for every byte. -/
def hexBytes (bytes : List UInt8) : String :=
  bytes.foldl (fun text b => text ++ hexPadded 2 b.toNat) ""

end GraphicsBuffers.Text
