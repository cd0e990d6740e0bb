import JitBridge.Panic
import JitBridge.Text.Column
import JitBridge.Text.Hex

/-!
Listings of machine code: one line for each instruction, with its address, its bytes and its text. A
decoder goes through the code from its first byte on. What it reports of an instruction is where it
starts and how long it is, so a listing finds the bytes of a line by the distance of its address
from the load address. An address below the load address panics: code whose addresses wrap around
has no listing.
-/

namespace JitBridge

/-- What a decoder reports of an instruction: its address, how many bytes it has, and its text. -/
structure Decoded where
  address : UInt64
  length : Nat
  text : String
deriving DecidableEq, Repr

/-- Decodes the instruction that starts with a byte, given the address of the byte and the bytes
that follow it. -/
structure Decoder where
  decode : UInt64 → UInt8 → List UInt8 → Decoded
  /-- An instruction has at least its first byte. -/
  length_pos : ∀ address b rest, 0 < (decode address b rest).length
  /-- It has no more bytes than there are. -/
  length_le : ∀ address b rest, (decode address b rest).length ≤ rest.length + 1
  address_eq : ∀ address b rest, (decode address b rest).address = address

/-- Knows no instruction, and shows each byte on its own. -/
def Decoder.bytewise : Decoder where
  decode address _ _ := ⟨address, 1, "(bad)"⟩
  length_pos _ _ _ := Nat.one_pos
  length_le _ _ rest := Nat.le_add_left 1 rest.length
  address_eq _ _ _ := rfl

/-- One instruction of a listing. -/
structure ListingLine where
  address : UInt64
  bytes : List UInt8
  text : String
deriving DecidableEq, Repr

/-- Address, bytes in a column of twenty, and text. -/
def ListingLine.render (line : ListingLine) : String :=
  Text.hexWord line.address ++ " " ++ Text.padRight 20 (Text.hexBytes line.bytes) ++ " " ++
    line.text ++ "\n"

/-- The line of an instruction of `code`, which is loaded at `address`. -/
def Decoded.line (address : UInt64) (code : List UInt8) (found : Decoded) :
    Except Panic ListingLine :=
  if found.address < address then .error (.overflow .subtract)
  else
    let start := (found.address - address).toNat
    let stop := start + found.length
    if stop ≤ code.length then
      .ok ⟨found.address, (code.drop start).take found.length, found.text⟩
    else .error (.endOutOfRange stop code.length)

namespace Decoder

/-- The instructions of `code` as if loaded at `address`, one behind the other. -/
def instructions (decoder : Decoder) (address : UInt64) (code : List UInt8) : List Decoded :=
  match code with
  | [] => []
  | b :: rest =>
    let found := decoder.decode address b rest
    found :: decoder.instructions (address + UInt64.ofNat found.length)
      ((b :: rest).drop found.length)
termination_by code.length
decreasing_by
  have taken := decoder.length_pos address b rest
  simp only [List.length_drop, List.length_cons]
  omega

/-- The listing of `code` as if loaded at `address`. -/
def listing (decoder : Decoder) (address : UInt64) (code : List UInt8) : Except Panic String := do
  let lines ← (decoder.instructions address code).mapM (Decoded.line address code)
  return String.join (lines.map ListingLine.render)

end Decoder
end JitBridge
