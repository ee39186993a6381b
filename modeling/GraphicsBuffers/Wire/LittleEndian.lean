/-!
# Little-endian words

Control structures are byte strings with words at fixed offsets, the lowest byte first. Writing
a word and reading it back gives the word (`read32_write`, `read64_write`), and a field written
elsewhere leaves it alone (`read32_write_of_disjoint`).
-/

namespace GraphicsBuffers.Wire

/-- A byte string. -/
abbrev Bytes := List UInt8

/-- The lowest `width` bytes of `n`, the lowest first. -/
def encode : Nat → Nat → Bytes
  | 0, _ => []
  | width + 1, n => UInt8.ofNat (n % 256) :: encode width (n / 256)

/-- The number a byte string stands for, its first byte the lowest. -/
def decode : Bytes → Nat
  | [] => 0
  | b :: rest => b.toNat + 256 * decode rest

/-- A 32-bit word in four bytes. -/
def word32 (v : UInt32) : Bytes := encode 4 v.toNat

/-- A 64-bit word in eight bytes. -/
def word64 (v : UInt64) : Bytes := encode 8 v.toNat

/-- A signed 32-bit word in four bytes. -/
def int32 (v : Int32) : Bytes := word32 v.toUInt32

/-- So many bytes of padding. -/
def zeros (n : Nat) : Bytes := List.replicate n 0

/-- The 32-bit word at `offset`. -/
def read32 (bytes : Bytes) (offset : Nat) : UInt32 :=
  UInt32.ofNat (decode ((bytes.drop offset).take 4))

/-- The 64-bit word at `offset`. -/
def read64 (bytes : Bytes) (offset : Nat) : UInt64 :=
  UInt64.ofNat (decode ((bytes.drop offset).take 8))

/-- The signed 32-bit word at `offset`. -/
def readInt32 (bytes : Bytes) (offset : Nat) : Int32 := (read32 bytes offset).toInt32

/-- The byte string with `field` in place of the bytes at `offset`. -/
def write (bytes : Bytes) (offset : Nat) (field : Bytes) : Bytes :=
  bytes.take offset ++ field ++ bytes.drop (offset + field.length)

/-! ## Lengths and round trips -/

@[simp] theorem length_encode (width n : Nat) : (encode width n).length = width := by
  induction width generalizing n with
  | zero => rfl
  | succ w ih => simp [encode, ih]

@[simp] theorem length_word32 (v : UInt32) : (word32 v).length = 4 := length_encode 4 _
@[simp] theorem length_word64 (v : UInt64) : (word64 v).length = 8 := length_encode 8 _
@[simp] theorem length_int32 (v : Int32) : (int32 v).length = 4 := length_encode 4 _
@[simp] theorem length_zeros (n : Nat) : (zeros n).length = n := List.length_replicate

theorem decode_encode (width n : Nat) (h : n < Nat.pow 256 width) : decode (encode width n) = n := by
  induction width generalizing n with
  | zero => simp at h; simp [encode, decode, h]
  | succ w ih =>
    have : n / 256 < Nat.pow 256 w := (Nat.div_lt_iff_lt_mul (by decide)).2 h
    simp only [encode, decode, ih _ this, UInt8.toNat_ofNat']
    omega

theorem read32_word32 (v : UInt32) (rest : Bytes) : read32 (word32 v ++ rest) 0 = v := by
  simp only [read32, List.drop_zero, word32]
  rw [List.take_append_of_le_length (by simp), List.take_of_length_le (by simp),
    decode_encode 4 _ (by simpa using v.toNat_lt)]
  simp

theorem read64_word64 (v : UInt64) (rest : Bytes) : read64 (word64 v ++ rest) 0 = v := by
  simp only [read64, List.drop_zero, word64]
  rw [List.take_append_of_le_length (by simp), List.take_of_length_le (by simp),
    decode_encode 8 _ (by simpa using v.toNat_lt)]
  simp

/-- Reading past a field reads what follows it. -/
theorem read32_append (field rest : Bytes) (offset : Nat) (h : field.length ≤ offset) :
    read32 (field ++ rest) offset = read32 rest (offset - field.length) := by
  simp only [read32, List.drop_append]
  rw [List.drop_of_length_le h, List.nil_append]

/-- Reading past a field reads what follows it. -/
theorem read64_append (field rest : Bytes) (offset : Nat) (h : field.length ≤ offset) :
    read64 (field ++ rest) offset = read64 rest (offset - field.length) := by
  simp only [read64, List.drop_append]
  rw [List.drop_of_length_le h, List.nil_append]

/-! ## Fields written in place -/

theorem length_write {bytes field : Bytes} {offset : Nat}
    (h : offset + field.length ≤ bytes.length) : (write bytes offset field).length = bytes.length := by
  simp only [write, List.length_append, List.length_take, List.length_drop]
  omega

theorem read32_write {bytes : Bytes} {offset : Nat} (v : UInt32) (h : offset ≤ bytes.length) :
    read32 (write bytes offset (word32 v)) offset = v := by
  have hl : (bytes.take offset).length = offset := by simp; omega
  rw [write, List.append_assoc, read32_append _ _ _ (by omega), hl, Nat.sub_self, read32_word32]

theorem read64_write {bytes : Bytes} {offset : Nat} (v : UInt64) (h : offset ≤ bytes.length) :
    read64 (write bytes offset (word64 v)) offset = v := by
  have hl : (bytes.take offset).length = offset := by simp; omega
  rw [write, List.append_assoc, read64_append _ _ _ (by omega), hl, Nat.sub_self, read64_word64]

/-- A field written elsewhere leaves `width` bytes at `i` alone. -/
theorem slice_write_of_disjoint {bytes field : Bytes} {offset i width : Nat}
    (h : offset + field.length ≤ bytes.length)
    (hd : i + width ≤ offset ∨ offset + field.length ≤ i) :
    ((write bytes offset field).drop i).take width = (bytes.drop i).take width := by
  apply List.ext_getElem?
  intro n
  simp only [write, List.getElem?_take, List.getElem?_drop, List.getElem?_append, List.length_append,
    List.length_take]
  split
  · rcases hd with hd | hd
    · rw [if_pos (by omega), if_pos (by omega), if_pos (by omega)]
    · rw [if_neg (by omega)]
      congr 1
      omega
  · rfl

theorem read32_write_of_disjoint {bytes field : Bytes} {offset i : Nat}
    (h : offset + field.length ≤ bytes.length) (hd : i + 4 ≤ offset ∨ offset + field.length ≤ i) :
    read32 (write bytes offset field) i = read32 bytes i := by
  rw [read32, slice_write_of_disjoint h hd, read32]

end GraphicsBuffers.Wire
