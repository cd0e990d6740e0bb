/-!
Comparison of texts without regard to the case of ASCII letters. Letters outside ASCII are told
apart by case.
-/

namespace JitBridge.Text

/-- Whether two texts agree up to the case of ASCII letters. -/
def sameIgnoringCase (a b : String) : Bool :=
  a.toList.map Char.toLower == b.toList.map Char.toLower

end JitBridge.Text
