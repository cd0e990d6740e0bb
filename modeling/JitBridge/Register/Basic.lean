import JitBridge.Kind

/-!
A register is an immutable description of one physical register. Two registers are equal when all
four parts agree; sets of registers look only at the number.
-/

namespace JitBridge

/-- The storage category of a register. -/
inductive Category where
  | generalPurpose | floatingPoint
deriving DecidableEq, Repr, Inhabited

/-- Whether a register of this category can hold a value of kind `k`. -/
def Category.canStore : Category → Kind → Bool
  | .generalPurpose, k => k.lane = some .integer
  | .floatingPoint, k => k.lane = some .float

/-- One physical register. -/
structure Register where
  /-- Unique within an architecture. -/
  number : UInt16
  /-- Encoding in instructions; two registers may share one. -/
  encoding : UInt8
  category : Category
  /-- Name in assembler text. -/
  name : String
deriving DecidableEq, Repr, Inhabited

/-- The general purpose register with that number and encoding. -/
def Register.general (name : String) (number encoding : Nat) : Register where
  number := number.toUInt16
  encoding := encoding.toUInt8
  category := .generalPurpose
  name := name

/-- The floating point register with that number and encoding. -/
def Register.floating (name : String) (number encoding : Nat) : Register where
  number := number.toUInt16
  encoding := encoding.toUInt8
  category := .floatingPoint
  name := name

/-- Register names separated by commas. -/
def Register.namesText (registers : List Register) : String :=
  ", ".intercalate (registers.map (·.name))

end JitBridge
