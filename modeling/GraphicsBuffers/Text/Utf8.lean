/-!
# UTF-8

Byte strings are read as text one character at a time. `next` takes the longest run of bytes that
begins a well-formed character: it answers the character, or nothing where the run breaks off
before the character is complete. Strict reading refuses such a run, and lenient reading puts one
replacement character in its place.
-/

namespace GraphicsBuffers.Text.Utf8

/-- The character put in place of malformed bytes. -/
def replacement : Char := Char.ofNat 0xfffd

/-- Whether a byte continues a character. -/
def isContinuation (b : UInt8) : Bool := 0x80 ≤ b && b ≤ 0xbf

/-- How many bytes follow a first byte; `none` if no character starts with it. -/
def following (b : UInt8) : Option Nat :=
  if b < 0x80 then some 0
  else if 0xc2 ≤ b && b ≤ 0xdf then some 1
  else if 0xe0 ≤ b && b ≤ 0xef then some 2
  else if 0xf0 ≤ b && b ≤ 0xf4 then some 3
  else none

/-- Whether a second byte may follow a first one: the encoding is the shortest, the number is that
of a character, and it is no surrogate. -/
def fits (first second : UInt8) : Bool :=
  if first = 0xe0 then 0xa0 ≤ second && second ≤ 0xbf
  else if first = 0xed then 0x80 ≤ second && second ≤ 0x9f
  else if first = 0xf0 then 0x90 ≤ second && second ≤ 0xbf
  else if first = 0xf4 then 0x80 ≤ second && second ≤ 0x8f
  else isContinuation second

/-- The number a first byte contributes, before it is shifted. -/
def lead (b : UInt8) : Nat :=
  if b < 0x80 then b.toNat
  else if b < 0xe0 then b.toNat % 32
  else if b < 0xf0 then b.toNat % 16
  else b.toNat % 8

/-- The number of a character from its bytes. -/
def codePoint (first : UInt8) (rest : List UInt8) : Nat :=
  rest.foldl (fun n b => n * 64 + b.toNat % 64) (lead first)

/-- The bytes after the first that belong to the character it starts, as far as they are there. -/
def run (first : UInt8) (rest : List UInt8) (count : Nat) : List UInt8 :=
  match rest.take count with
  | [] => []
  | second :: others =>
    if fits first second then second :: others.takeWhile isContinuation else []

/-- The character a first byte starts, or `none` if it is malformed, and how many of the bytes
after the first are taken. -/
def next (first : UInt8) (rest : List UInt8) : Option Char × Nat :=
  match following first with
  | none => (none, 0)
  | some count =>
    let taken := run first rest count
    if taken.length = count then (some (Char.ofNat (codePoint first taken)), count)
    else (none, taken.length)

/-- Reads bytes as text, with a replacement character for every malformed run. -/
def decodeLossy : List UInt8 → List Char
  | [] => []
  | b :: rest =>
    ((next b rest).1.getD replacement) :: decodeLossy (rest.drop (next b rest).2)
termination_by bytes => bytes.length
decreasing_by simp only [List.length_drop, List.length_cons]; omega

/-- Reads bytes as text, if all of them are well formed. -/
def decode? : List UInt8 → Option (List Char)
  | [] => some []
  | b :: rest =>
    match (next b rest).1 with
    | none => none
    | some c => (decode? (rest.drop (next b rest).2)).map (c :: ·)
termination_by bytes => bytes.length
decreasing_by simp only [List.length_drop, List.length_cons]; omega

end GraphicsBuffers.Text.Utf8
