import JitBridge.Action
import JitBridge.Convention.Assigner

/-!
An assigner that is asked for one location at a time. Whoever asks may catch a panic and ask on, so
a call leaves an assigner however it ends: what was changed before a panic stays changed.
-/

namespace JitBridge

/-- What an assigner is asked for: the location of the next parameter, or that of a result. -/
inductive AssignerCall where
  | argument (kind : Kind)
  | result (kind : Kind)
deriving DecidableEq, Repr

namespace Assigner

/-- Takes the next register of a lane, if its pool has one left. -/
def takeRegister (lane : Lane) : Action Assigner (Option Register) := do
  let a ← get
  match (a.pools.arguments lane)[a.used lane]? with
  | some register =>
    modify (·.advance lane)
    return some register
  | none => return none

/-- Takes a slot at the end of the argument area; panics if the slot would end beyond the last
size. -/
def takeSlot (kind : Kind) : Action Assigner StackSlot := do
  let a ← get
  let slot := a.nextSlot kind
  match Size.add a.stack slot.size with
  | .error p => Action.panic p
  | .ok stack =>
    modify ({ · with stack })
    return slot

/-- The register for the next parameter of a kind, if there is one left; panics if the kind has no
lane. -/
def nextRegister (kind : Kind) : Action Assigner (Option Register) :=
  match kind.lane with
  | none => Action.panic (.noLane kind)
  | some lane => takeRegister lane

/-- The location of a parameter that got that register, or none. -/
def settle (kind : Kind) : Option Register → Action Assigner Location
  | some register => return .register register kind
  | none => return .stack (← takeSlot kind)

/-- Assigns the next parameter. -/
def assignNext (kind : Kind) : Action Assigner Location := do
  let register ← nextRegister kind.widened
  settle kind.widened register

/-- What a call does. Only the call for a parameter changes the assigner. -/
def perform : AssignerCall → Action Assigner (Option Location)
  | .argument kind => do return some (← assignNext kind)
  | .result kind => do return (← get).result kind

/-- One call: how it ended, and the assigner that it leaves. -/
def call (a : Assigner) (call : AssignerCall) : Except Fault (Option Location) × Assigner :=
  ((perform call).runFrom a).answer

end Assigner
end JitBridge
