import GraphicsBuffers.Proofs.Replies
/-!
# Structures in memory

A structure is declared as a list of fields. Each field stands at the first multiple of its word's
width behind the field before it, and the whole is padded to a multiple of the widest word. What is
laid out by this rule is read back by it (`contents_image`), with zeros in between (`padding_image`):
one induction on the fields for every structure there is. What is read depends on no other byte
(`contentsAt_congr`).
-/

namespace GraphicsBuffers.Wire

open Kernel (roundUp le_roundUp)

/-! ## Declarations -/

/-- The type of a word. Lengths and pointers are unsigned words of 64 bits. -/
inductive Scalar
  | u32 | i32 | u64
  deriving DecidableEq

/-- Bytes of a word, which are its alignment too. -/
def Scalar.width : Scalar → Nat
  | u32 | i32 => 4
  | u64 => 8

/-- A word with its type. -/
inductive Value
  | u32 (v : UInt32)
  | i32 (v : Int32)
  | u64 (v : UInt64)
  deriving DecidableEq

def Value.scalar : Value → Scalar
  | u32 _ => .u32
  | i32 _ => .i32
  | u64 _ => .u64

/-- The bytes of a word, the lowest first. -/
def Value.bytes : Value → Bytes
  | u32 v => word32 v
  | i32 v => int32 v
  | u64 v => word64 v

/-- The word of a type at `offset`. -/
def Scalar.read (s : Scalar) (bytes : Bytes) (offset : Nat) : Value :=
  match s with
  | u32 => .u32 (read32 bytes offset)
  | i32 => .i32 (readInt32 bytes offset)
  | u64 => .u64 (read64 bytes offset)

/-- A field: one word, or several in a row. -/
structure Field where
  name : String
  scalar : Scalar
  count : Nat := 1
  deriving DecidableEq

namespace Field

def length (f : Field) : Nat := f.count * f.scalar.width

/-- Where the field begins if what is before it ends at `start`. -/
def place (f : Field) (start : Nat) : Nat := roundUp start f.scalar.width

/-- So many words of a type in a row. -/
def readWords (s : Scalar) (bytes : Bytes) : Nat → Nat → List Value
  | 0, _ => []
  | n + 1, offset => s.read bytes offset :: readWords s bytes n (offset + s.width)

/-- The words of the field, which begins at `offset`. -/
def read (f : Field) (bytes : Bytes) (offset : Nat) : List Value :=
  readWords f.scalar bytes f.count offset

end Field

/-- The fields with the places they begin at, if the first may begin at `start`. -/
def places (start : Nat) : List Field → List (Field × Nat)
  | [] => []
  | f :: rest => (f, f.place start) :: places (f.place start + f.length) rest

/-- Where the last field ends. -/
def finish (start : Nat) : List Field → Nat
  | [] => start
  | f :: rest => finish (f.place start + f.length) rest

/-- The width of the widest word. -/
def alignment (fields : List Field) : Nat := fields.foldr (fun f n => max f.scalar.width n) 1

/-- Bytes of a structure. -/
def structureSize (fields : List Field) : Nat := roundUp (finish 0 fields) (alignment fields)

/-- Where a field begins. -/
def offsetOf (fields : List Field) (name : String) : Option Nat :=
  ((places 0 fields).find? (·.1.name = name)).map (·.2)

/-- The words of the fields at the given places, with the names of the fields. -/
def contentsAt (placed : List (Field × Nat)) (bytes : Bytes) : List (String × List Value) :=
  placed.map fun p => (p.1.name, p.1.read bytes p.2)

/-- What a structure holds. -/
def contents (fields : List Field) (bytes : Bytes) : List (String × List Value) :=
  contentsAt (places 0 fields) bytes

/-- The fields of the given names, at their places. -/
def selected (fields : List Field) (names : List String) : List (Field × Nat) :=
  (places 0 fields).filter (·.1.name ∈ names)

/-- A byte belongs to one of the fields. -/
def Covered (placed : List (Field × Nat)) (i : Nat) : Prop :=
  ∃ p ∈ placed, p.2 ≤ i ∧ i < p.2 + p.1.length

/-- The bytes of the given fields are the same. -/
def Agree (placed : List (Field × Nat)) (bytes bytes' : Bytes) : Prop :=
  ∀ p ∈ placed, (bytes.drop p.2).take p.1.length = (bytes'.drop p.2).take p.1.length

/-! ## Laying out and reading back -/

/-- A field and the words in it. -/
abbrev Filled := Field × List Value

/-- The words are as many as the field has, and of its type. -/
def Filled.Fits (p : Filled) : Prop := p.2.length = p.1.count ∧ ∀ v ∈ p.2, v.scalar = p.1.scalar

/-- The fields behind `start`, with zeros before each up to its place. -/
def lay (start : Nat) : List Filled → Bytes
  | [] => []
  | (f, values) :: rest =>
    zeros (f.place start - start) ++ values.flatMap Value.bytes ++
      lay (f.place start + f.length) rest

/-- The bytes of a structure with the given words in its fields. -/
def image (filled : List Filled) : Bytes :=
  let fields := filled.map (·.1)
  lay 0 filled ++ zeros (structureSize fields - finish 0 fields)

theorem Scalar.width_pos (s : Scalar) : 0 < s.width := by cases s <;> decide

@[simp] theorem Value.length_bytes (v : Value) : v.bytes.length = v.scalar.width := by
  cases v with
  | u32 v => exact length_word32 v
  | i32 v => exact length_int32 v
  | u64 v => exact length_word64 v

theorem Scalar.read_append (s : Scalar) (before rest : Bytes) :
    s.read (before ++ rest) before.length = s.read rest 0 := by
  cases s <;>
    simp only [read, readInt32, read32_append _ _ _ (Nat.le_refl _),
      read64_append _ _ _ (Nat.le_refl _), Nat.sub_self]

theorem Value.read_bytes (v : Value) (rest : Bytes) : v.scalar.read (v.bytes ++ rest) 0 = v := by
  cases v with
  | u32 v => exact congrArg Value.u32 (read32_word32 v rest)
  | i32 v =>
    have eq := congrArg UInt32.toInt32 (read32_word32 v.toUInt32 rest)
    exact congrArg Value.i32 (eq.trans (Int32.toInt32_toUInt32 v))
  | u64 v => exact congrArg Value.u64 (read64_word64 v rest)

namespace Field

theorem le_place (f : Field) (start : Nat) : start ≤ f.place start :=
  le_roundUp _ f.scalar.width_pos

theorem length_flatMap {s : Scalar} {values : List Value} (typed : ∀ v ∈ values, v.scalar = s) :
    (values.flatMap Value.bytes).length = values.length * s.width := by
  induction values with
  | nil => exact (Nat.zero_mul _).symm
  | cons v rest ih =>
    rw [List.flatMap_cons, List.length_append, Value.length_bytes, typed v (by simp),
      ih fun v mem => typed v (by simp [mem]), List.length_cons]
    grind

/-- Words written in a row are read back in a row. -/
theorem readWords_flatMap {s : Scalar} {values : List Value} (typed : ∀ v ∈ values, v.scalar = s)
    (before rest : Bytes) :
    readWords s (before ++ values.flatMap Value.bytes ++ rest) values.length before.length
      = values := by
  induction values generalizing before with
  | nil => rfl
  | cons v tail ih =>
    have head : v.scalar = s := typed v (by simp)
    have step := ih (fun v mem => typed v (by simp [mem])) (before ++ v.bytes)
    rw [List.length_append, Value.length_bytes, head] at step
    rw [List.flatMap_cons, List.length_cons, readWords]
    congr 1
    · rw [List.append_assoc, List.append_assoc, Scalar.read_append, ← head, Value.read_bytes]
    · simpa only [List.append_assoc] using step

theorem readWords_congr {s : Scalar} {n offset : Nat} {bytes bytes' : Bytes}
    (same : (bytes.drop offset).take (n * s.width) = (bytes'.drop offset).take (n * s.width)) :
    readWords s bytes n offset = readWords s bytes' n offset := by
  induction n generalizing offset with
  | zero => rfl
  | succ n ih =>
    have head : (bytes.drop offset).take s.width = (bytes'.drop offset).take s.width := by
      have eq := congrArg (List.take s.width) same
      rwa [List.take_take, List.take_take, Nat.min_eq_left (by grind)] at eq
    have tail : (bytes.drop (offset + s.width)).take (n * s.width)
        = (bytes'.drop (offset + s.width)).take (n * s.width) := by
      have eq := congrArg (List.drop s.width) same
      rwa [List.drop_take, List.drop_take, List.drop_drop, List.drop_drop,
        show (n + 1) * s.width - s.width = n * s.width by grind] at eq
    rw [readWords, readWords, ih tail]
    congr 1
    cases s <;> simp only [Scalar.read, readInt32, read32, read64] <;> simp only [Scalar.width] at head <;>
      rw [head]

end Field

/-- Only the bytes of the fields matter for what they hold. -/
theorem contentsAt_congr {placed : List (Field × Nat)} {bytes bytes' : Bytes}
    (agree : Agree placed bytes bytes') : contentsAt placed bytes = contentsAt placed bytes' := by
  refine List.map_congr_left fun p mem => ?_
  rw [Field.read, Field.read, Field.readWords_congr (agree p mem)]

section Layout

variable {filled : List Filled} {start : Nat}

theorem le_finish (fields : List Field) (start : Nat) : start ≤ finish start fields := by
  induction fields generalizing start with
  | nil => exact Nat.le_refl _
  | cons f rest ih =>
    calc start ≤ f.place start := f.le_place start
      _ ≤ f.place start + f.length := Nat.le_add_right ..
      _ ≤ finish start (f :: rest) := ih _

theorem length_lay (fits : ∀ p ∈ filled, p.Fits) (start : Nat) :
    (lay start filled).length = finish start (filled.map (·.1)) - start := by
  induction filled generalizing start with
  | nil => exact (Nat.sub_self _).symm
  | cons p rest ih =>
    obtain ⟨f, values⟩ := p
    obtain ⟨many, typed⟩ := fits (f, values) (by simp)
    have apart := f.le_place start
    have ends := le_finish (rest.map (·.1)) (f.place start + f.length)
    have here : (values.flatMap Value.bytes).length = f.length := by
      rw [Field.length_flatMap typed, many, Field.length]
    rw [lay, List.length_append, List.length_append, length_zeros, here,
      ih fun p mem => fits p (by simp [mem]), List.map_cons, finish]
    dsimp only
    omega

theorem contentsAt_lay (fits : ∀ p ∈ filled, p.Fits) (before rest : Bytes)
    (starts : before.length = start) :
    contentsAt (places start (filled.map (·.1))) (before ++ lay start filled ++ rest)
      = filled.map fun p => (p.1.name, p.2) := by
  induction filled generalizing start before with
  | nil => rfl
  | cons p tail ih =>
    obtain ⟨f, values⟩ := p
    obtain ⟨many, typed⟩ := fits (f, values) (by simp)
    have apart := f.le_place start
    have padded : (before ++ zeros (f.place start - start)).length = f.place start := by
      rw [List.length_append, length_zeros]; omega
    have ended : (before ++ zeros (f.place start - start) ++ values.flatMap Value.bytes).length
        = f.place start + f.length := by
      rw [List.length_append, padded, Field.length_flatMap typed, many, Field.length]
    have read := Field.readWords_flatMap typed (before ++ zeros (f.place start - start))
      (lay (f.place start + f.length) tail ++ rest)
    rw [padded, many] at read
    have later := ih (fun p mem => fits p (by simp [mem])) _ ended
    simp only [List.map_cons, places, contentsAt, lay, Field.read]
    simp only [List.append_assoc] at read later ⊢
    rw [read]
    exact congrArg _ later

theorem padding_lay (fits : ∀ p ∈ filled, p.Fits) (before : Bytes) (starts : before.length = start)
    {i : Nat} (above : start ≤ i) (below : i < finish start (filled.map (·.1)))
    (bare : ¬ Covered (places start (filled.map (·.1))) i) :
    (before ++ lay start filled)[i]? = some 0 := by
  induction filled generalizing start before with
  | nil => exact absurd below (Nat.not_lt.2 above)
  | cons p tail ih =>
    obtain ⟨f, values⟩ := p
    obtain ⟨many, typed⟩ := fits (f, values) (by simp)
    have apart := f.le_place start
    have padded : (before ++ zeros (f.place start - start)).length = f.place start := by
      rw [List.length_append, length_zeros]; omega
    have ended : (before ++ zeros (f.place start - start) ++ values.flatMap Value.bytes).length
        = f.place start + f.length := by
      rw [List.length_append, padded, Field.length_flatMap typed, many, Field.length]
    rw [lay, ← List.append_assoc, ← List.append_assoc]
    -- The byte is before the field, in it, or behind it.
    rcases Nat.lt_or_ge i (f.place start) with before_ | from_
    · rw [List.append_assoc, List.getElem?_append_left (by omega), List.getElem?_append_right (by omega),
        zeros, List.getElem?_replicate, if_pos (by omega)]
    · rcases Nat.lt_or_ge i (f.place start + f.length) with inside | behind
      · exact absurd ⟨(f, f.place start), by simp [places], from_, inside⟩ bare
      · refine ih (fun p mem => fits p (by simp [mem])) _ ended behind below fun ⟨p, mem, covers⟩ => ?_
        exact bare ⟨p, by simp only [List.map_cons, places, List.mem_cons]; exact .inr mem, covers⟩

end Layout

section Image

variable {filled : List Filled}

theorem alignment_pos (fields : List Field) : 0 < alignment fields := by
  induction fields with
  | nil => decide
  | cons f rest ih => exact Nat.lt_of_lt_of_le ih (Nat.le_max_right ..)

theorem finish_le_size (fields : List Field) : finish 0 fields ≤ structureSize fields :=
  le_roundUp _ (alignment_pos fields)

theorem length_image (fits : ∀ p ∈ filled, p.Fits) :
    (image filled).length = structureSize (filled.map (·.1)) := by
  have within := finish_le_size (filled.map (·.1))
  rw [image, List.length_append, length_zeros, length_lay fits 0]
  omega

/-- A structure holds what was laid out in it. -/
theorem contents_image (fits : ∀ p ∈ filled, p.Fits) :
    contents (filled.map (·.1)) (image filled) = filled.map fun p => (p.1.name, p.2) :=
  contentsAt_lay fits [] _ rfl

/-- Bytes of no field are zero. -/
theorem padding_image (fits : ∀ p ∈ filled, p.Fits) {i : Nat}
    (below : i < structureSize (filled.map (·.1)))
    (bare : ¬ Covered (places 0 (filled.map (·.1))) i) : (image filled)[i]? = some 0 := by
  have length := length_lay fits 0
  rw [image]
  rcases Nat.lt_or_ge i (finish 0 (filled.map (·.1))) with inside | behind
  · rw [List.getElem?_append_left (by omega)]
    exact padding_lay fits [] rfl (Nat.zero_le _) inside bare
  · rw [List.getElem?_append_right (by omega), zeros, List.getElem?_replicate, if_pos (by omega)]

end Image

end GraphicsBuffers.Wire
