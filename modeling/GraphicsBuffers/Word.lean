/-!
# Checked 32-bit arithmetic

Sizes, strides and offsets of buffers are 32-bit words. Adding and multiplying them answers
`none` where the exact result does not fit, so a geometry is either exact or refused.
-/

namespace GraphicsBuffers.Word

/-- The exact sum, if it fits in 32 bits. -/
def add? (a b : UInt32) : Option UInt32 :=
  if a.toNat + b.toNat < UInt32.size then some (a + b) else none

/-- The exact product, if it fits in 32 bits. -/
def mul? (a b : UInt32) : Option UInt32 :=
  if a.toNat * b.toNat < UInt32.size then some (a * b) else none

/-- The least multiple of `unit`, a power of two, that is not below `a`. -/
def align? (a unit : UInt32) : Option UInt32 :=
  (add? a (unit - 1)).map (· &&& ~~~(unit - 1))

theorem add?_eq_some {a b c : UInt32} : add? a b = some c ↔ c.toNat = a.toNat + b.toNat := by
  simp only [add?, UInt32.size]
  split
  · next h =>
    simp only [Option.some.injEq]
    constructor
    · rintro rfl; rw [UInt32.toNat_add]; omega
    · intro hc; apply UInt32.toNat_inj.1; rw [UInt32.toNat_add, hc]; omega
  · next h =>
    have := c.toNat_lt
    simp only [reduceCtorEq, false_iff]
    omega

theorem mul?_eq_some {a b c : UInt32} : mul? a b = some c ↔ c.toNat = a.toNat * b.toNat := by
  simp only [mul?, UInt32.size]
  split
  · next h =>
    simp only [Option.some.injEq]
    constructor
    · rintro rfl; rw [UInt32.toNat_mul, Nat.mod_eq_of_lt h]
    · intro hc; apply UInt32.toNat_inj.1; rw [UInt32.toNat_mul, hc, Nat.mod_eq_of_lt h]
  · next h =>
    have := c.toNat_lt
    simp only [reduceCtorEq, false_iff]
    omega

end GraphicsBuffers.Word
