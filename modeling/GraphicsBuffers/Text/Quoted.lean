import GraphicsBuffers.Text.Hex
import GraphicsBuffers.Text.Printable
/-!
# Quoted text

A text between double quotes, with every character that would be ambiguous or invisible escaped.
-/

namespace GraphicsBuffers.Text

/-- A character inside quotes. -/
def escape (c : Char) : String :=
  match c with
  | '"' => "\\\""
  | '\\' => "\\\\"
  | '\n' => "\\n"
  | '\r' => "\\r"
  | '\t' => "\\t"
  | '\x00' => "\\0"
  | c => if isPrintable c then c.toString else "\\u\x7b" ++ hex c.toNat ++ "\x7d"

/-- A text between quotes. -/
def quoted (s : String) : String :=
  "\"" ++ String.join (s.toList.map escape) ++ "\""

end GraphicsBuffers.Text
