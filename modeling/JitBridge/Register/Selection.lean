import JitBridge.Fault
import JitBridge.Register.Set

/-!
Which registers an allocator may use, and which a call may destroy. Both are sublists of a given
list, in its order.
-/

namespace JitBridge

namespace Register

/-- The registers that can hold a value of kind `kind`, in order. -/
def storing (kind : Kind) (registers : List Register) : List Register :=
  registers.filter (·.category.canStore kind)

/-- What is left of `registers` without the numbers in `reserved` and without the heap base. -/
def unreserved (registers : List Register) (reserved : RegisterSet) (heapBase : Option Register) :
    List Register :=
  (registers.filter fun r => !reserved.contains r).filter fun r => some r != heapBase

/-- How many registers have to be left: `none` if more are reserved than there are. -/
def expectedCount (registers reserved : Nat) (heapBase : Bool) : Option Nat :=
  if reserved + heapBase.toNat ≤ registers then some (registers - (reserved + heapBase.toNat))
  else none

/-- The allocatable registers: `registers` without the reserved ones and the heap base, in order.
It is an error if their number shows that a reserved register is missing or listed twice. -/
def allocatable (registers reserved : List Register) (heapBase : Option Register) :
    Except Fault (List Register) :=
  match RegisterSet.ofList reserved with
  | .error p => .error (.panic p)
  | .ok reservedSet =>
    let left := unreserved registers reservedSet heapBase
    if expectedCount registers.length reserved.length heapBase.isSome = some left.length then
      .ok left
    else
      .error (.error (.illegalState
        (s!"allocatable register count {left.length} does not match {registers.length} " ++
        s!"registers - {reserved.length} reserved - {heapBase.isSome.toNat} heap base")))

/-- The registers of `candidates` that occur, by number, in one of the pools. -/
def callerSaved (candidates : List Register) (pools : List (List Register)) :
    Except Panic (List Register) := do
  let set ← pools.foldlM RegisterSet.insertAll RegisterSet.empty
  return set.members candidates

end Register
end JitBridge
