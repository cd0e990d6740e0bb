import JitBridge.Architecture.Name
import JitBridge.Register.Basic

/-!
The register file of an architecture, and code generation targets built on it.
-/

namespace JitBridge

/-- The register file of an architecture. -/
structure Architecture where
  name : Arch
  /-- Size of a machine word in bytes. -/
  wordSize : Nat
  /-- Every register; a register's place in the list is its number. -/
  registers : List Register
  /-- The registers that can hold values, in allocation order. -/
  available : List Register
  /-- Size of the return address that a call instruction pushes. -/
  returnAddressSize : Nat
deriving DecidableEq, Repr

/-- The register of that name; case matters. -/
def Architecture.register? (arch : Architecture) (name : String) : Option Register :=
  arch.registers.find? (·.name == name)

/-- An architecture with the properties of a machine that uses it. -/
structure Target where
  arch : Architecture
  wordSize : Nat
  /-- Stack alignment at call sites, in bytes. -/
  stackAlignment : Nat
  /-- Whether the machine has several processors. -/
  isMultiprocessor : Bool
deriving DecidableEq, Repr

namespace Target

/-- The target with the word size of its architecture. -/
def ofArchitecture (arch : Architecture) (stackAlignment : Nat) (isMultiprocessor : Bool) :
    Target where
  arch := arch
  wordSize := arch.wordSize
  stackAlignment := stackAlignment
  isMultiprocessor := isMultiprocessor

/-- The kind of a machine word. -/
def wordKind (target : Target) : Kind := if target.wordSize = 8 then .long else .int

end Target
end JitBridge
