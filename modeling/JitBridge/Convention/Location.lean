import JitBridge.Register.Basic

/-!
Where the values of a call live: in registers, or in slots of the outgoing argument area. A calling
convention binds the parameters and the result of one signature to such locations.
-/

namespace JitBridge

/-- Which side of which kind of call a convention describes. -/
inductive CallType where
  /-- A call between managed methods, seen by the caller. -/
  | managedCall
  /-- A call between managed methods, seen by the callee. -/
  | managedCallee
  /-- A call into or out of native code. -/
  | nativeCall
deriving DecidableEq, Repr

namespace CallType

/-- Whether the caller's side is described. -/
def isOutgoing : CallType → Bool
  | managedCall | nativeCall => true
  | managedCallee => false

def isNative : CallType → Bool
  | nativeCall => true
  | _ => false

def label : CallType → String
  | managedCall => "ManagedCall"
  | managedCallee => "ManagedCallee"
  | nativeCall => "NativeCall"

end CallType

/-- A slot of the outgoing argument area. -/
structure StackSlot where
  /-- Distance from the start of the area. -/
  offset : Nat
  /-- Size in bytes, never below the word size. -/
  size : Nat
  kind : Kind
  /-- Set for the callee: its own frame has to be added to reach the slot. -/
  addFrameSize : Bool
deriving DecidableEq, Repr

/-- Where one value lives at a call. -/
inductive Location where
  | register (register : Register) (kind : Kind)
  | stack (slot : StackSlot)
deriving DecidableEq, Repr

namespace Location

def kind : Location → Kind
  | register _ kind => kind
  | stack slot => slot.kind

def register? : Location → Option Register
  | register r _ => some r
  | stack _ => none

def slot? : Location → Option StackSlot
  | register _ _ => none
  | stack slot => some slot

/-- A register or slot with the character of its kind, as in `rsi|I` and `stack:out+8|J`. -/
def text : Location → String
  | register r kind => s!"{r.name}|{kind.typeChar}"
  | stack slot =>
      let side := if slot.addFrameSize then "in" else "out"
      s!"stack:{side}+{slot.offset}|{slot.kind.typeChar}"

end Location

/-- The locations of one signature. -/
structure CallingConvention where
  /-- Size of the outgoing argument area in bytes. -/
  stackSize : Nat
  /-- Where the result is, if there is one. -/
  result : Option Location
  arguments : List Location
deriving DecidableEq, Repr

/-- All locations on one line, then the size of the argument area. -/
def CallingConvention.text (convention : CallingConvention) : String :=
  let arguments := ", ".intercalate (convention.arguments.map Location.text)
  let result := (convention.result.map Location.text).getD "void"
  s!"CallingConvention[{arguments} -> {result}; stack={convention.stackSize}]"

end JitBridge
