import GraphicsBuffers.Text.Hex
/-!
# Addresses

An address is a place in one mapping, or an absolute number. A mapping's own base is not known to
the library, so an address in it is kept as a distance from that base. Distances wrap at 2^64.
-/

namespace GraphicsBuffers

/-- What an address is counted from. -/
inductive Base
  /-- Zero. -/
  | absolute
  /-- The first byte of the mapping of that number. -/
  | mapping (id : Nat)
  deriving DecidableEq

/-- A place in memory: a base and the distance from it. -/
structure Address where
  base : Base
  offset : UInt64
  deriving DecidableEq

namespace Address

/-- The address `n` bytes further on. -/
def advance (a : Address) (n : UInt64) : Address := { a with offset := a.offset + n }

/-- The first byte of a mapping. -/
def start (mapping : Nat) : Address := ⟨.mapping mapping, 0⟩

/-- A number as an address. -/
def number (n : UInt64) : Address := ⟨.absolute, n⟩

/-- The bytes from `a` on to `b`, if both are counted from the same base. -/
def distance (a b : Address) : UInt64 := b.offset - a.offset

/-- The mapping with the distance from its base, if there is any; an absolute number in
hexadecimal. -/
def text (a : Address) : String :=
  let offset := "0x" ++ Text.hex a.offset.toNat
  match a.base with
  | .absolute => offset
  | .mapping id =>
    "m" ++ toString id ++ (if a.offset = 0 then "" else "+" ++ offset)

end Address

end GraphicsBuffers
