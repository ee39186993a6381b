import GraphicsBuffers.Text.Utf8
import Mathlib.Data.List.Basic
import Mathlib.Data.List.TakeWhile
import Mathlib.Tactic.SplitIfs
/-!
# Text and its bytes

Reading bytes as text is the other way round of encoding text in UTF-8: strict reading answers a text
exactly for its bytes (`decode_eq_some_iff`), and lenient reading does for those (`decodeLossy_encode`). What
lenient reading makes of other bytes is not spelled in them (`encode_decodeLossy_of_prefix`). `Spells` is
the syntax of one character, between the bits that reading puts together and those that encoding takes apart.
-/

namespace GraphicsBuffers.Text.Utf8

/-- The bytes of a text. -/
def encode (text : List Char) : List UInt8 := text.flatMap String.utf8EncodeChar

theorem encode_cons (c : Char) (text : List Char) :
    encode (c :: text) = String.utf8EncodeChar c ++ encode text := List.flatMap_cons

/-! ## Bytes as numbers -/

theorem isContinuation_iff {b : UInt8} : isContinuation b ↔ 0x80 ≤ b.toNat ∧ b.toNat ≤ 0xbf := by
  simp [isContinuation, UInt8.le_iff_toNat_le]

theorem fits_iff {a b : UInt8} : fits a b ↔ isContinuation b ∧ (a.toNat = 0xe0 → 0xa0 ≤ b.toNat) ∧
    (a.toNat = 0xed → b.toNat ≤ 0x9f) ∧ (a.toNat = 0xf0 → 0x90 ≤ b.toNat) ∧
    (a.toNat = 0xf4 → b.toNat ≤ 0x8f) := by
  simp only [fits, ← UInt8.toNat_inj, UInt8.reduceToNat]
  split_ifs <;> simp [isContinuation, UInt8.le_iff_toNat_le] <;> omega

theorem fits_of_le {a b : UInt8} (high : a.toNat ≤ 0xdf) (second : isContinuation b) : fits a b := by
  rw [fits_iff]
  refine ⟨second, ?_, ?_, ?_, ?_⟩ <;> omega

theorem following_eq_some {b : UInt8} {n : Nat} : following b = some n ↔
    b.toNat < 0x80 ∧ n = 0 ∨ (0xc2 ≤ b.toNat ∧ b.toNat ≤ 0xdf) ∧ n = 1 ∨
      (0xe0 ≤ b.toNat ∧ b.toNat ≤ 0xef) ∧ n = 2 ∨ (0xf0 ≤ b.toNat ∧ b.toNat ≤ 0xf4) ∧ n = 3 := by
  simp only [following, UInt8.lt_iff_toNat_lt, UInt8.le_iff_toNat_le, UInt8.reduceToNat,
    Bool.and_eq_true, decide_eq_true_eq]
  split_ifs <;> simp <;> omega

theorem lead_eq (b : UInt8) : lead b =
    if b.toNat < 0x80 then b.toNat
    else if b.toNat < 0xe0 then b.toNat % 32
    else if b.toNat < 0xf0 then b.toNat % 16
    else b.toNat % 8 := by
  simp only [lead, UInt8.lt_iff_toNat_lt, UInt8.reduceToNat]

theorem lead_of_two {b : UInt8} (low : 0xc2 ≤ b.toNat) (high : b.toNat ≤ 0xdf) :
    lead b = b.toNat % 32 := by
  rw [lead_eq, if_neg (by omega), if_pos (by omega)]

theorem lead_of_three {b : UInt8} (low : 0xe0 ≤ b.toNat) (high : b.toNat ≤ 0xef) :
    lead b = b.toNat % 16 := by
  rw [lead_eq, if_neg (by omega), if_neg (by omega), if_pos (by omega)]

theorem lead_of_four {b : UInt8} (low : 0xf0 ≤ b.toNat) : lead b = b.toNat % 8 := by
  rw [lead_eq, if_neg (by omega), if_neg (by omega), if_neg (by omega)]

/-! ## One character -/

/-- So many bytes spell the character of a number, in the shortest way. -/
inductive Spells : List UInt8 → Nat → Prop
  | one {a : UInt8} (first : a.toNat < 0x80) : Spells [a] a.toNat
  | two {a b : UInt8} (low : 0xc2 ≤ a.toNat) (high : a.toNat ≤ 0xdf) (second : isContinuation b) :
    Spells [a, b] (a.toNat % 32 * 64 + b.toNat % 64)
  | three {a b c : UInt8} (low : 0xe0 ≤ a.toNat) (high : a.toNat ≤ 0xef) (second : fits a b)
    (third : isContinuation c) :
    Spells [a, b, c] ((a.toNat % 16 * 64 + b.toNat % 64) * 64 + c.toNat % 64)
  | four {a b c d : UInt8} (low : 0xf0 ≤ a.toNat) (high : a.toNat ≤ 0xf4) (second : fits a b)
    (third : isContinuation c) (fourth : isContinuation d) :
    Spells [a, b, c, d]
      (((a.toNat % 8 * 64 + b.toNat % 64) * 64 + c.toNat % 64) * 64 + d.toNat % 64)

/-- What is spelled is read, whatever follows. -/
theorem Spells.next {a : UInt8} {tail : List UInt8} {n : Nat} (spells : Spells (a :: tail) n)
    (rest : List UInt8) : next a (tail ++ rest) = (some (Char.ofNat n), tail.length) := by
  have follows {k : Nat} (eq : following a = some k) : Utf8.next a (tail ++ rest) =
      let taken := run a (tail ++ rest) k
      if taken.length = k then (some (Char.ofNat (codePoint a taken)), k) else (none, taken.length) := by
    rw [Utf8.next, eq]
  cases spells with
  | one first =>
    rw [follows (following_eq_some.2 (.inl ⟨first, rfl⟩))]
    simp [run, codePoint, lead_eq, first]
  | two low high second =>
    rw [follows (following_eq_some.2 (.inr (.inl ⟨⟨low, high⟩, rfl⟩)))]
    simp [run, codePoint, lead_of_two low high, fits_of_le high second]
  | three low high second third =>
    rw [follows (following_eq_some.2 (.inr (.inr (.inl ⟨⟨low, high⟩, rfl⟩))))]
    simp [run, codePoint, lead_of_three low high, second, third]
  | four low high second third fourth =>
    rw [follows (following_eq_some.2 (.inr (.inr (.inr ⟨⟨low, high⟩, rfl⟩))))]
    simp [run, codePoint, lead_of_four low, second, third, fourth]

/-- A run that is as long as it should be has taken all the bytes it may. -/
theorem run_full {a : UInt8} {rest : List UInt8} {k : Nat} (full : (run a rest k).length = k) :
    run a rest k = rest.take k ∧ ∀ b others, rest.take k = b :: others →
      fits a b ∧ others.length + 1 = k ∧ ∀ c ∈ others, isContinuation c := by
  have most := List.length_take_le k rest
  unfold run at full ⊢
  generalize rest.take k = taken at full most ⊢
  rcases taken with _ | ⟨b, others⟩
  · exact ⟨rfl, nofun⟩
  dsimp only [List.length_cons] at full most ⊢
  by_cases second : fits a b
  · rw [if_pos second] at full ⊢
    have part := List.takeWhile_prefix isContinuation (l := others)
    have short := part.length_le
    have whole := part.eq_of_length (by rw [List.length_cons] at full; omega)
    rw [whole] at full ⊢
    refine ⟨rfl, fun b' others' eq => ?_⟩
    obtain ⟨rfl, rfl⟩ := List.cons.inj eq
    exact ⟨second, full, List.takeWhile_eq_self_iff.1 whole⟩
  · rw [if_neg second] at full
    cases full
    cases most

/-- What is read is spelled. -/
theorem spells_of_next {a : UInt8} {rest : List UInt8} {c : Char} {k : Nat}
    (read : Utf8.next a rest = (some c, k)) : ∃ n, Spells (a :: rest.take k) n ∧ c = Char.ofNat n := by
  unfold Utf8.next at read
  split at read
  case h_1 => cases read
  next follows =>
  dsimp only at read
  split at read
  case isFalse => cases read
  next full =>
  cases read
  obtain ⟨whole, parts⟩ := run_full full
  rw [whole] at full ⊢
  refine ⟨_, ?_, rfl⟩
  rcases taken : rest.take k with _ | ⟨b, others⟩ <;> rw [taken] at full
  · obtain ⟨first, -⟩ | ⟨-, rfl⟩ | ⟨-, rfl⟩ | ⟨-, rfl⟩ := following_eq_some.1 follows <;> cases full
    have number : codePoint a [] = a.toNat := by simp [codePoint, lead_eq, first]
    rw [number]
    exact .one first
  obtain ⟨second, length, continues⟩ := parts b others taken
  obtain ⟨-, rfl⟩ | ⟨⟨low, high⟩, rfl⟩ | ⟨⟨low, high⟩, rfl⟩ | ⟨⟨low, high⟩, rfl⟩ :=
    following_eq_some.1 follows
  · cases length
  · obtain rfl := List.length_eq_zero_iff.1 (Nat.succ.inj length)
    simp only [codePoint, List.foldl_cons, List.foldl_nil, lead_of_two low high]
    exact .two low high (fits_iff.1 second).1
  · obtain ⟨c, rfl⟩ := List.length_eq_one_iff.1 (Nat.succ.inj length)
    simp only [codePoint, List.foldl_cons, List.foldl_nil, lead_of_three low high]
    exact .three low high second (continues c (by simp))
  · obtain ⟨c, d, rfl⟩ := List.length_eq_two.1 (Nat.succ.inj length)
    simp only [codePoint, List.foldl_cons, List.foldl_nil, lead_of_four low]
    exact .four low high second (continues c (by simp)) (continues d (by simp))

/-! ## Characters and their bytes -/

theorem toNat_byte {n : Nat} (h : n < 256) : (UInt8.ofNat n).toNat = n := UInt8.toNat_ofNat_of_lt' h

theorem toNat_continuation (n : Nat) : (UInt8.ofNat (n % 64 + 128)).toNat = n % 64 + 128 :=
  toNat_byte (by omega)

/-- Its bytes spell a character. -/
theorem encodeChar_spells (c : Char) : Spells (String.utf8EncodeChar c) c.val.toNat := by
  have valid : c.val.toNat < 0xd800 ∨ 0xdfff < c.val.toNat ∧ c.val.toNat < 0x110000 := c.valid
  have continues (m : Nat) : isContinuation (.ofNat (m % 64 + 128)) := by
    rw [isContinuation_iff, toNat_continuation]
    omega
  unfold String.utf8EncodeChar
  generalize c.val.toNat = n at valid
  dsimp only
  split
  · have byte := toNat_byte (show n < 256 by omega)
    have spells := Spells.one (a := .ofNat n) (by omega)
    rwa [byte] at spells
  split
  · have first := toNat_byte (show n / 64 % 32 + 192 < 256 by omega)
    have spells := Spells.two (a := .ofNat (n / 64 % 32 + 192)) (by omega) (by omega) (continues n)
    have number : (n / 64 % 32 + 192) % 32 * 64 + (n % 64 + 128) % 64 = n := by omega
    rwa [first, toNat_continuation, number] at spells
  split
  · have first := toNat_byte (show n / 4096 % 16 + 224 < 256 by omega)
    have second := toNat_continuation (n / 64)
    have spells := Spells.three (a := .ofNat (n / 4096 % 16 + 224)) (by omega) (by omega)
      (fits_iff.2 ⟨continues (n / 64), by omega, by omega, by omega, by omega⟩) (continues n)
    have number : ((n / 4096 % 16 + 224) % 16 * 64 + (n / 64 % 64 + 128) % 64) * 64 +
        (n % 64 + 128) % 64 = n := by omega
    rwa [first, second, toNat_continuation, number] at spells
  · have first := toNat_byte (show n / 262144 % 8 + 240 < 256 by omega)
    have second := toNat_continuation (n / 4096)
    have spells := Spells.four (a := .ofNat (n / 262144 % 8 + 240)) (by omega) (by omega)
      (fits_iff.2 ⟨continues (n / 4096), by omega, by omega, by omega, by omega⟩) (continues (n / 64))
      (continues n)
    have number : (((n / 262144 % 8 + 240) % 8 * 64 + (n / 4096 % 64 + 128) % 64) * 64 +
        (n / 64 % 64 + 128) % 64) * 64 + (n % 64 + 128) % 64 = n := by omega
    rwa [first, second, toNat_continuation, toNat_continuation, number] at spells

/-- What is spelled is a character: surrogates and numbers that are too large are not. -/
theorem Spells.isValidChar {bytes : List UInt8} {n : Nat} (spells : Spells bytes n) : n.isValidChar := by
  unfold Nat.isValidChar
  cases spells with
  | one first => omega
  | two low high second =>
    rw [isContinuation_iff] at second
    omega
  | three low high second third =>
    obtain ⟨second, -, surrogate, -⟩ := fits_iff.1 second
    rw [isContinuation_iff] at second third
    omega
  | four low high second third fourth =>
    obtain ⟨second, -, -, least, most⟩ := fits_iff.1 second
    rw [isContinuation_iff] at second third fourth
    omega

/-- Nothing but its bytes spells a character. -/
theorem Spells.eq_encodeChar {bytes : List UInt8} {n : Nat} (spells : Spells bytes n) :
    bytes = String.utf8EncodeChar (Char.ofNat n) := by
  have number : (Char.ofNat n).val.toNat = n := by
    rw [Char.ofNat, dif_pos spells.isValidChar]
    rfl
  have byte {a : UInt8} {m : Nat} (eq : a.toNat = m) : a = .ofNat m := by
    subst eq
    exact UInt8.ofNat_toNat.symm
  unfold String.utf8EncodeChar
  rw [number]
  dsimp only
  cases spells with
  | @one a first => rw [if_pos (by omega), ← byte rfl]
  | @two a b low high second =>
    rw [isContinuation_iff] at second
    rw [if_neg (by omega), if_pos (by omega), ← byte (a := a) (by omega), ← byte (a := b) (by omega)]
  | @three a b c low high second third =>
    obtain ⟨second, least, -⟩ := fits_iff.1 second
    rw [isContinuation_iff] at second third
    rw [if_neg (by omega), if_neg (by omega), if_pos (by omega), ← byte (a := a) (by omega),
      ← byte (a := b) (by omega), ← byte (a := c) (by omega)]
  | @four a b c d low high second third fourth =>
    obtain ⟨second, -, -, least, -⟩ := fits_iff.1 second
    rw [isContinuation_iff] at second third fourth
    rw [if_neg (by omega), if_neg (by omega), if_neg (by omega), ← byte (a := a) (by omega),
      ← byte (a := b) (by omega), ← byte (a := c) (by omega), ← byte (a := d) (by omega)]

/-- The bytes of a character are read as it. -/
theorem next_encodeChar (c : Char) (rest : List UInt8) : ∃ a tail, String.utf8EncodeChar c = a :: tail ∧
    Utf8.next a (tail ++ rest) = (some c, tail.length) := by
  have spells := encodeChar_spells c
  rcases eq : String.utf8EncodeChar c with _ | ⟨a, tail⟩ <;> rw [eq] at spells
  · nomatch spells
  · exact ⟨a, tail, rfl, (spells.next rest).trans (congrArg (some ·, tail.length) (Char.ofNat_toNat c))⟩

/-- Where a character is read, its bytes are. -/
theorem eq_encodeChar_of_next {a : UInt8} {rest : List UInt8} {c : Char} {k : Nat}
    (read : Utf8.next a rest = (some c, k)) : a :: rest = String.utf8EncodeChar c ++ rest.drop k := by
  obtain ⟨n, spells, rfl⟩ := spells_of_next read
  rw [← spells.eq_encodeChar, List.cons_append, List.take_append_drop]

/-! ## Texts and their bytes -/

theorem decode_encode (text : List Char) : decode? (encode text) = some text := by
  induction text with
  | nil => rw [encode, List.flatMap_nil, decode?]
  | cons c text ih =>
    obtain ⟨a, tail, eq, read⟩ := next_encodeChar c (encode text)
    rw [encode_cons, eq, List.cons_append, decode?, read]
    dsimp only
    rw [List.drop_left, ih, Option.map_some]

/-- Reading lets no malformed bytes pass. -/
theorem decode_eq_some_iff {bytes : List UInt8} {text : List Char} :
    decode? bytes = some text ↔ bytes = encode text := by
  refine ⟨fun decoded => ?_, fun eq => eq ▸ decode_encode text⟩
  induction bytes using decode?.induct generalizing text with
  | case1 =>
    rw [decode?] at decoded
    cases decoded
    rfl
  | case2 a rest malformed =>
    rw [decode?, malformed] at decoded
    cases decoded
  | case3 a rest c read ih =>
    rw [decode?, read] at decoded
    obtain ⟨text, after, rfl⟩ := Option.map_eq_some_iff.1 decoded
    rw [encode_cons, ← ih after]
    exact eq_encodeChar_of_next (Prod.ext read rfl)

theorem decodeLossy_encode (text : List Char) : decodeLossy (encode text) = text := by
  induction text with
  | nil => rw [encode, List.flatMap_nil, decodeLossy]
  | cons c text ih =>
    obtain ⟨a, tail, eq, read⟩ := next_encodeChar c (encode text)
    rw [encode_cons, eq, List.cons_append, decodeLossy, read]
    dsimp only
    rw [List.drop_left, ih, Option.getD_some]

/-- Bytes that are followed by a NUL, or by nothing, begin with a field without NULs if all of them do
together. -/
theorem eq_append_of_zero {bytes after field rest : List UInt8} (zero : 0 ∉ field)
    (ends : ∀ b ∈ after.head?, b = 0) (eq : bytes ++ after = field ++ rest) :
    ∃ more, bytes = field ++ more := by
  obtain ⟨more, rfl, rfl⟩ | ⟨more, rfl, -⟩ := List.append_eq_append_iff.1 eq
  · cases more with
    | nil => exact ⟨[], by simp⟩
    | cons b more => exact absurd (List.mem_append_right bytes (ends b rfl ▸ List.mem_cons_self)) zero
  · exact ⟨more, rfl⟩

/-- If the text that is read leniently begins, in its bytes, what was read up to a NUL or up to the end,
then nothing was replaced in it. -/
theorem encode_decodeLossy_of_prefix {bytes after rest : List UInt8}
    (ends : ∀ b ∈ after.head?, b = 0) (eq : bytes ++ after = encode (decodeLossy bytes) ++ rest) :
    encode (decodeLossy bytes) = bytes := by
  induction bytes using decodeLossy.induct with
  | case1 =>
    rw [decodeLossy]
    rfl
  | case2 a bytes ih =>
    rw [decodeLossy, encode_cons] at eq ⊢
    rcases read : Utf8.next a bytes with ⟨_ | c, k⟩ <;> simp only [read] at eq ih ⊢
    · -- The bytes of the replacement character are well formed: they would have been read as that.
      have spelled : String.utf8EncodeChar replacement = [0xef, 0xbf, 0xbd] := by decide
      rw [Option.getD_none, spelled, List.append_assoc] at eq
      have zero : (0 : UInt8) ∉ [0xef, 0xbf, 0xbd] := by decide
      obtain ⟨more, whole⟩ := eq_append_of_zero zero ends eq
      have read' := (spelled ▸ encodeChar_spells replacement : Spells [0xef, 0xbf, 0xbd] _).next more
      obtain ⟨rfl, rfl⟩ := List.cons.inj whole
      cases read.symm.trans read'
    · have spelled := eq_encodeChar_of_next read
      rw [Option.getD_some] at eq ⊢
      rw [spelled, List.append_assoc, List.append_assoc] at eq
      rw [ih (List.append_cancel_left eq), ← spelled]

end GraphicsBuffers.Text.Utf8
