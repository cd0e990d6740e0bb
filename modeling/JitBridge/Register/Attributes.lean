import JitBridge.Register.Set

/-!
The attributes of registers under a register configuration, as a table indexed by register number.
-/

namespace JitBridge

/-- The roles of one register. -/
structure Attributes where
  callerSave : Bool := false
  calleeSave : Bool := false
  allocatable : Bool := false
deriving DecidableEq, Repr, Inhabited

namespace Attributes

/-- The table's length: one more than the largest number, or nothing for no registers. -/
def tableSize (registers : List Register) : Nat :=
  registers.foldl (fun size r => max size (r.number.toNat + 1)) 0

/-- The roles of `r` by membership in the three sets. -/
def ofSets (caller callee allocatable : RegisterSet) (r : Register) : Attributes :=
  ⟨caller.contains r, callee.contains r, allocatable.contains r⟩

/-- Writes the roles of `r` at its number; panics if the table does not reach so far. -/
def write (roles : Register → Attributes) (table : List Attributes) (r : Register) :
    Except Panic (List Attributes) :=
  if r.number.toNat < table.length then .ok (table.set r.number.toNat (roles r))
  else .error (.indexOutOfRange r.number.toNat table.length)

/-- The table of `registers`; a number that none of them has keeps no role. -/
def table (registers caller : List Register) (callee : Option (List Register))
    (allocatable : List Register) : Except Panic (List Attributes) := do
  let caller ← RegisterSet.ofList caller
  let callee ← RegisterSet.ofList (callee.getD [])
  let allocatable ← RegisterSet.ofList allocatable
  registers.foldlM (write (ofSets caller callee allocatable))
    (List.replicate (tableSize registers) {})

end Attributes
end JitBridge
