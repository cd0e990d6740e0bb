import JitBridge.Convention.Location
import JitBridge.Size

/-!
Assignment of locations. The assigner walks the parameters in order with one cursor for each lane. A
parameter takes the next register of its lane's pool while the pool lasts; after that it takes a
slot, at least a word wide, at the end of the argument area, whose size has to fit in 64 bits. The
result is in a fixed register of its lane.
-/

namespace JitBridge

/-- The registers a convention draws from. -/
structure Pools where
  general : List Register
  float : List Register
  integerReturn : Register
  floatReturn : Register
  wordSize : Nat
  /-- Bytes in front of the first stack argument. -/
  homeSpace : Nat
deriving DecidableEq, Repr

namespace Pools

/-- The parameter registers of a lane. -/
def arguments (pools : Pools) : Lane → List Register
  | .integer => pools.general
  | .float => pools.float

/-- The result register of a lane. -/
def result (pools : Pools) : Lane → Register
  | .integer => pools.integerReturn
  | .float => pools.floatReturn

/-- The size of a slot for a value of that kind. -/
def slotSize (pools : Pools) (kind : Kind) : Nat := max kind.size pools.wordSize

end Pools

/-- How far an assignment has come. -/
structure Assigner where
  pools : Pools
  callType : CallType
  /-- General registers handed out. -/
  generalUsed : Nat
  /-- Floating point registers handed out. -/
  floatUsed : Nat
  /-- End of the argument area so far. -/
  stack : Nat
deriving DecidableEq, Repr

namespace Assigner

/-- Nothing is assigned yet; the argument area holds the home space. -/
def start (pools : Pools) (callType : CallType) : Assigner :=
  ⟨pools, callType, 0, 0, pools.homeSpace⟩

/-- The registers of a lane that were handed out. -/
def used (a : Assigner) : Lane → Nat
  | .integer => a.generalUsed
  | .float => a.floatUsed

/-- Moves the cursor of a lane past one register. -/
def advance (a : Assigner) : Lane → Assigner
  | .integer => { a with generalUsed := a.generalUsed + 1 }
  | .float => { a with floatUsed := a.floatUsed + 1 }

/-- The slot that a value of that kind would take now. -/
def nextSlot (a : Assigner) (kind : Kind) : StackSlot where
  offset := a.stack
  size := a.pools.slotSize kind
  kind := kind
  addFrameSize := !a.callType.isOutgoing

/-- Assigns the next parameter; panics if its kind has no lane, or if its slot would end beyond the
last size. -/
def argument (a : Assigner) (kind : Kind) : Except Panic (Location × Assigner) :=
  let kind := kind.widened
  match kind.lane with
  | none => .error (.noLane kind)
  | some lane =>
    match (a.pools.arguments lane)[a.used lane]? with
    | some register => .ok (.register register kind, a.advance lane)
    | none =>
      let slot := a.nextSlot kind
      match Size.add a.stack slot.size with
      | .error p => .error p
      | .ok stack => .ok (.stack slot, { a with stack })

/-- The location of a result, `none` for a kind without lane. -/
def result (a : Assigner) (kind : Kind) : Option Location :=
  kind.widened.lane.map fun lane => .register (a.pools.result lane) kind.widened

/-- Assigns parameters in order. -/
def arguments (a : Assigner) : List Kind → Except Panic (List Location × Assigner)
  | [] => .ok ([], a)
  | kind :: kinds =>
    match a.argument kind with
    | .error p => .error p
    | .ok (location, a) =>
      match a.arguments kinds with
      | .error p => .error p
      | .ok (locations, a) => .ok (location :: locations, a)

end Assigner

/-- The locations of a signature with these kinds. -/
def Pools.assign (pools : Pools) (callType : CallType) (returnKind : Kind)
    (parameters : List Kind) : Except Panic CallingConvention :=
  match (Assigner.start pools callType).arguments parameters with
  | .error p => .error p
  | .ok (locations, a) => .ok ⟨a.stack, a.result returnKind, locations⟩

end JitBridge
