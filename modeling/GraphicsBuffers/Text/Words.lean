/-!
# Lines and words

A line ends at a line feed, and a carriage return before it is not part of the line. Words are
separated by white space, which is a fixed set of characters.
-/

namespace GraphicsBuffers.Text

/-- Whether a character is white space. -/
def isBlank (c : Char) : Bool :=
  let n := c.toNat
  (9 ≤ n && n ≤ 13) || n == 0x20 || n == 0x85 || n == 0xa0 || n == 0x1680
    || (0x2000 ≤ n && n ≤ 0x200a) || n == 0x2028 || n == 0x2029 || n == 0x202f || n == 0x205f
    || n == 0x3000

/-- The first line, or `none` of an empty text. -/
def firstLine? (text : List Char) : Option (List Char) :=
  if text.isEmpty then none
  else
    let line := text.takeWhile (· != '\n')
    let ended := line.length < text.length
    some (if ended && line.getLast? == some '\r' then line.dropLast else line)

/-- The word that a text starts with once blanks are skipped, and what follows it. -/
def nextWord? (text : List Char) : Option (List Char × List Char) :=
  let start := text.dropWhile isBlank
  if start.isEmpty then none
  else some (start.takeWhile (!isBlank ·), start.dropWhile (!isBlank ·))

/-- The second word of a text. -/
def secondWord? (text : List Char) : Option (List Char) := do
  let (_, rest) ← nextWord? text
  let (word, _) ← nextWord? rest
  return word

end GraphicsBuffers.Text
