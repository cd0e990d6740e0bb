/-!
Text in columns: a text shorter than its column is filled up with blanks, a longer one is kept
whole. Width is counted in characters.
-/

namespace JitBridge.Text

/-- `n` blanks. -/
def blanks (n : Nat) : String := String.ofList (List.replicate n ' ')

/-- Fills up on the right: the text stands at the left of its column. -/
def padRight (width : Nat) (text : String) : String := text ++ blanks (width - text.length)

/-- Fills up on the left: the text stands at the right of its column. -/
def padLeft (width : Nat) (text : String) : String := blanks (width - text.length) ++ text

end JitBridge.Text
