import GraphicsBuffers.Text.Hex
/-!
# Usage masks

A usage is a set of flags in a 32-bit word. Callers declare one when they allocate a buffer and
name one again whenever they lock it. Bits without a name are kept and take part in every test. What
unions, containment and intersection say is proved flag by flag.
-/

namespace GraphicsBuffers

/-- A set of usage flags. -/
structure Usage where
  bits : UInt32
  deriving DecidableEq, Inhabited

namespace Usage

def empty : Usage := ⟨0⟩
def swReadRarely : Usage := ⟨0x2⟩
def swReadOften : Usage := ⟨0x3⟩
def swReadMask : Usage := ⟨0xf⟩
def swWriteRarely : Usage := ⟨0x20⟩
def swWriteOften : Usage := ⟨0x30⟩
def swWriteMask : Usage := ⟨0xf0⟩
def hwTexture : Usage := ⟨0x100⟩
def hwRender : Usage := ⟨0x200⟩
def hw2d : Usage := ⟨0x400⟩
def hwComposer : Usage := ⟨0x800⟩
def hwFb : Usage := ⟨0x1000⟩
def externalDisp : Usage := ⟨0x2000⟩
def isProtected : Usage := ⟨0x4000⟩
def cursor : Usage := ⟨0x8000⟩
def hwVideoEncoder : Usage := ⟨0x10000⟩
def hwCameraWrite : Usage := ⟨0x20000⟩
def hwCameraRead : Usage := ⟨0x40000⟩
def hwMask : Usage := ⟨0x71f00⟩
def renderScript : Usage := ⟨0x100000⟩
def privateMask : Usage := ⟨0xf0000000⟩

/-! ## Sets of flags -/

/-- All flags of either. -/
def union (a b : Usage) : Usage := ⟨a.bits ||| b.bits⟩

instance : OrOp Usage := ⟨union⟩

/-- Whether every flag of `b` is in `a`. -/
def contains (a b : Usage) : Bool := a.bits &&& b.bits == b.bits

/-- Whether `a` and `b` share a flag. -/
def intersects (a b : Usage) : Bool := a.bits &&& b.bits != 0

/-! ## What a usage asks for -/

/-- A buffer declared with one of these flags may be locked for anything, so that the display and
test rendering paths reach it from the processor. -/
def lockAny : Usage := swReadOften ||| hwFb ||| hwTexture ||| hwVideoEncoder

/-- Whether software reads. -/
def swRead (u : Usage) : Bool := u.intersects swReadMask

/-- Whether software writes. -/
def swWrite (u : Usage) : Bool := u.intersects swWriteMask

/-- Whether the processor needs a mapping of the buffer. -/
def swAccess (u : Usage) : Bool := u.swRead || u.swWrite

/-- Whether a buffer declared so is scanned out, and so needs a framebuffer. -/
def needsFramebuffer (u : Usage) : Bool := u.contains hwFb

/-- Whether a buffer declared so tolerates locks it did not declare. -/
def allowsAnyLock (u : Usage) : Bool := u.intersects lockAny

/-! ## Flag by flag -/

/-- Whether the flag of number `i` is set. -/
def flag (u : Usage) (i : Nat) : Bool := u.bits.toBitVec.getLsbD i

theorem ext_flag {a b : Usage} (h : ∀ i, a.flag i = b.flag i) : a = b := by
  obtain ⟨a⟩ := a
  obtain ⟨b⟩ := b
  exact congrArg mk (UInt32.toBitVec_inj.1 (BitVec.eq_of_getLsbD_eq fun i _ => h i))

@[simp] theorem flag_or (a b : Usage) (i : Nat) : (a ||| b).flag i = (a.flag i || b.flag i) :=
  BitVec.getLsbD_or

@[simp] theorem flag_empty (i : Nat) : empty.flag i = false := by simp [flag, empty]

theorem contains_iff {a b : Usage} : a.contains b ↔ ∀ i, b.flag i → a.flag i := by
  have : a.contains b ↔ ∀ i, (a.flag i && b.flag i) = b.flag i := by
    simp only [contains, beq_iff_eq, flag, ← BitVec.getLsbD_and, ← UInt32.toBitVec_and]
    constructor
    · rintro h i
      rw [h]
    · intro h
      exact UInt32.toBitVec_inj.1 (BitVec.eq_of_getLsbD_eq fun i _ => h i)
  rw [this]
  grind

theorem intersects_iff {a b : Usage} : a.intersects b ↔ ∃ i, a.flag i ∧ b.flag i := by
  have : a.intersects b = false ↔ ∀ i, (a.flag i && b.flag i) = false := by
    simp only [intersects, bne_eq_false_iff_eq, flag, ← BitVec.getLsbD_and, ← UInt32.toBitVec_and]
    constructor
    · rintro h i
      simp [h]
    · intro h
      exact UInt32.toBitVec_inj.1 (BitVec.eq_of_getLsbD_eq fun i _ => by simpa using h i)
  rw [← Bool.not_eq_false, this]
  grind

@[simp] theorem empty_or (a : Usage) : empty ||| a = a := ext_flag (by simp)

theorem or_or_self (a b : Usage) : a ||| (b ||| a) = a ||| b := ext_flag (by grind [flag_or])

theorem or_eq_left {a b : Usage} (h : a.contains b) : a ||| b = a :=
  ext_flag (by grind [flag_or, contains_iff])

theorem intersects_or (a b c : Usage) :
    (a ||| b).intersects c = (a.intersects c || b.intersects c) := by
  rw [Bool.eq_iff_iff]
  simp only [Bool.or_eq_true, intersects_iff, flag_or]
  grind

theorem swAccess_or (a b : Usage) : (a ||| b).swAccess = (a.swAccess || b.swAccess) := by
  simp only [swAccess, swRead, swWrite, intersects_or]
  grind

@[simp] theorem swAccess_empty : empty.swAccess = false := by decide

/-! ## Text -/

/-- The flags that have a name, in the order in which they are listed. -/
def named : List (String × Usage) :=
  [("SW_READ_RARELY", swReadRarely), ("SW_READ_OFTEN", swReadOften), ("SW_READ_MASK", swReadMask),
   ("SW_WRITE_RARELY", swWriteRarely), ("SW_WRITE_OFTEN", swWriteOften),
   ("SW_WRITE_MASK", swWriteMask), ("HW_TEXTURE", hwTexture), ("HW_RENDER", hwRender),
   ("HW_2D", hw2d), ("HW_COMPOSER", hwComposer), ("HW_FB", hwFb),
   ("EXTERNAL_DISP", externalDisp), ("PROTECTED", isProtected), ("CURSOR", cursor),
   ("HW_VIDEO_ENCODER", hwVideoEncoder), ("HW_CAMERA_WRITE", hwCameraWrite),
   ("HW_CAMERA_READ", hwCameraRead), ("HW_MASK", hwMask), ("RENDERSCRIPT", renderScript),
   ("PRIVATE_MASK", privateMask)]

/-- Names the flags of `whole`, given the bits of it that no flag has named yet. A flag is listed
if all of it is in the whole and some of it is still unnamed; what no flag names follows in
hexadecimal. -/
def parts (whole : Usage) : List (String × Usage) → UInt32 → List String
  | [], left => if left = 0 then [] else ["0x" ++ Text.hex left.toNat]
  | (name, flag) :: rest, left =>
    if whole.contains flag && (flag.bits &&& left != 0) then
      name :: parts whole rest (left &&& ~~~flag.bits)
    else parts whole rest left

/-- The names of the flags between parentheses. -/
def text (u : Usage) : String :=
  let listed := u.parts named u.bits
  "Usage(" ++ (if listed.isEmpty then "0x0" else " | ".intercalate listed) ++ ")"

/-- The mask in hexadecimal. -/
def hexText (u : Usage) : String := "0x" ++ Text.hex u.bits.toNat

end Usage

end GraphicsBuffers
