/-!
# Decimal numbers

Reads a 32-bit number in decimal digits, with at most one plus sign in front. Digits are read from
the left, and the first one that is wrong or makes the number too large decides what the text is
refused for.
-/

namespace GraphicsBuffers.Text.Decimal

/-- Why a text is no 32-bit number. -/
inductive Refusal
  | empty
  | invalidDigit
  | tooLarge
  deriving DecidableEq

/-- What is said of the refused text. -/
def Refusal.message : Refusal → String
  | empty => "cannot parse integer from empty string"
  | invalidDigit => "invalid digit found in string"
  | tooLarge => "number too large to fit in target type"

/-- Reads digits after those of `n`. -/
def digits (n : UInt32) : List Char → Except Refusal UInt32
  | [] => .ok n
  | c :: rest =>
    if !c.isDigit then .error .invalidDigit
    else
      let next := n.toNat * 10 + (c.toNat - '0'.toNat)
      if next < UInt32.size then digits (UInt32.ofNat next) rest else .error .tooLarge

/-- Reads a whole text. A sign alone is no number, and a minus sign is no digit. -/
def word32 : List Char → Except Refusal UInt32
  | [] => .error .empty
  | ['+'] => .error .invalidDigit
  | '+' :: rest => digits 0 rest
  | text => digits 0 text

end GraphicsBuffers.Text.Decimal
