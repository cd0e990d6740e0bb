import JitBridge.Architecture.Name
import JitBridge.Options.Key
import JitBridge.Register.Basic

/-!
Panics: a broken contract of a caller, or a service that gave up. They unwind to whoever guards
the call; a guard sees only the text, if there is one.
-/

namespace JitBridge

/-- The arithmetic on 64-bit numbers whose result may not be one. -/
inductive WordOperation where
  | add
  | subtract
  | multiply
deriving DecidableEq, Repr

/-- The verb for the operation. -/
def WordOperation.verb : WordOperation → String
  | add => "add"
  | subtract => "subtract"
  | multiply => "multiply"

/-- Why a call panicked. -/
inductive Panic where
  /-- A parameter of a kind that no register or slot can carry. -/
  | noLane (kind : Kind)
  /-- Parameter registers were asked for a kind that cannot be a parameter. -/
  | noParameterRegisters (kind : Kind)
  /-- A register whose number no set can hold. -/
  | registerOutOfRange (register : Register)
  /-- A string option was read as a boolean. -/
  | notBoolean (key : OptionKey)
  /-- A boolean option was read as a string. -/
  | notString (key : OptionKey)
  /-- A number that the configuration gives to no compilation level. -/
  | unknownLevel (level : Int32)
  /-- A second backend for an architecture. -/
  | backendExists (arch : Arch)
  /-- A result outside the 64-bit numbers. -/
  | overflow (operation : WordOperation)
  /-- A place behind the end of a table. -/
  | indexOutOfRange (index length : Nat)
  /-- A range that starts behind the end of the bytes it is cut out of. -/
  | startOutOfRange (start length : Nat)
  /-- A range that ends behind the end of the bytes it is cut out of. -/
  | endOutOfRange (stop length : Nat)
  /-- More registers to allocate than a call may destroy. -/
  | tooManyAllocatable
  /-- A service gave up with a text. -/
  | raised (text : String)
  /-- A service gave up with a value that has no text. -/
  | textless
deriving DecidableEq, Repr

namespace Panic

/-- The text a guard sees. -/
def text? : Panic → Option String
  | noLane kind => some ("internal error: entered unreachable code: " ++
      s!"should not reach here: no lane for parameter kind {kind.label}")
  | noParameterRegisters kind => some ("internal error: entered unreachable code: " ++
      s!"should not reach here: no parameter registers for {kind.label}")
  | registerOutOfRange r => some s!"register number out of range: {r.name} ({r.number})"
  | notBoolean key => some s!"option {key.name} is not a boolean"
  | notString key => some s!"option {key.name} is not a string"
  | unknownLevel level => some s!"should not reach here: unknown compilation level {level}"
  | backendExists arch =>
      some s!"cannot overwrite existing backend for architecture {arch.name}"
  | overflow operation => some s!"attempt to {operation.verb} with overflow"
  | indexOutOfRange index length =>
      some s!"index out of bounds: the len is {length} but the index is {index}"
  | startOutOfRange start length =>
      some s!"range start index {start} out of range for slice of length {length}"
  | endOutOfRange stop length =>
      some s!"range end index {stop} out of range for slice of length {length}"
  | tooManyAllocatable =>
      some "assertion failed: result.caller_saved.len() >= result.allocatable.len()"
  | raised text => some text
  | textless => none

end Panic
end JitBridge
