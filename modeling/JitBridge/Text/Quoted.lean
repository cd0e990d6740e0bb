import JitBridge.Text.Hex
import JitBridge.Text.Invisible

/-!
Quoted text: a quote, a backslash and the common controls are escaped by a letter, other characters
that do not show by their code point.
-/

namespace JitBridge.Text

/-- How one character is written between quotes. -/
def escape (c : Char) : String :=
  match c with
  | '\x00' => "\\0"
  | '\t' => "\\t"
  | '\n' => "\\n"
  | '\r' => "\\r"
  | '"' => "\\\""
  | '\\' => "\\\\"
  | c => if isInvisible c then "\\u\x7b" ++ hex c.toNat ++ "\x7d" else c.toString

/-- The text between quotes. -/
def quoted (text : String) : String :=
  "\"" ++ String.join (text.toList.map escape) ++ "\""

end JitBridge.Text
