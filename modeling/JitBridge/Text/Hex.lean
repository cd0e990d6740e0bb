/-!
Numbers in hexadecimal: addresses and bytes in columns of fixed width, and operands as assemblers
write them.
-/

namespace JitBridge.Text

/-- The digits of a number in base 16, lower case. -/
def hex (n : Nat) : String := String.ofList (Nat.toDigits 16 n)

/-- The digits of a number in base 16, upper case. -/
def hexUpper (n : Nat) : String := String.ofList ((Nat.toDigits 16 n).map Char.toUpper)

/-- Fills up with zeros on the left. -/
def padZeros (width : Nat) (text : String) : String :=
  String.ofList (List.replicate (width - text.length) '0') ++ text

/-- Two upper-case digits. -/
def hexByte (b : UInt8) : String := padZeros 2 (hexUpper b.toNat)

/-- The bytes in order, two upper-case digits each. -/
def hexBytes (bytes : List UInt8) : String := String.join (bytes.map hexByte)

/-- Sixteen upper-case digits. -/
def hexWord (w : UInt64) : String := padZeros 16 (hexUpper w.toNat)

/-- An operand: up to nine in decimal, from there on in upper-case hexadecimal with an `h` behind
it and a zero in front of a letter. -/
def operand (n : Nat) : String :=
  if n ≤ 9 then toString n
  else
    let digits := hexUpper n
    let lead := match digits.toList with
      | c :: _ => if c.isDigit then "" else "0"
      | [] => ""
    lead ++ digits ++ "h"

end JitBridge.Text
