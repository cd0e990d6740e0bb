import JitBridge.Convention.Abi
import JitBridge.Register.Attributes
import JitBridge.Register.Selection
import JitBridge.VmConfig

/-!
The register configuration of a target: what a compiler asks about registers and calls. It is fixed
by the target, the platform's binary interface and the VM's configuration. Every allocatable and
every parameter register is saved by the caller, so there are no callee-saved registers.
-/

namespace JitBridge

/-- Register usage on a target. -/
structure RegisterConfig where
  target : Target
  abi : Abi
  /-- What the register allocator may use, in allocation order. -/
  allocatable : List Register
  /-- What a call may destroy, in the order of the architecture. -/
  callerSaved : List Register
  maxFrameSize : Nat
deriving DecidableEq, Repr

namespace RegisterConfig

/-- The configuration with the given allocatable registers. -/
def ofAllocatable (target : Target) (vm : VmConfig) (allocatable : List Register) :
    Except Panic RegisterConfig :=
  let abi := Abi.of target.arch.name vm.windows
  match Register.callerSaved target.arch.registers
      [allocatable, abi.float, abi.managed, abi.native] with
  | .error p => .error p
  | .ok callerSaved => .ok ⟨target, abi, allocatable, callerSaved, vm.maxFrameSize⟩

/-- The heap base register, if the VM keeps references relative to it. -/
def activeHeapBase (arch : Arch) (vm : VmConfig) : Option Register :=
  if vm.compressedReferences then some (Abi.of arch vm.windows).heapBase else none

/-- Whether a call may destroy as many registers as may be allocated. Only x86-64 asks for it; it
fails where the target makes one register available twice. -/
def isCovered (config : RegisterConfig) : Bool :=
  match config.target.arch.name with
  | .amd64 => config.allocatable.length ≤ config.callerSaved.length
  | .aarch64 => true

/-- The configuration of a target: all available registers are allocatable but the reserved ones
and an active heap base. -/
def ofTarget (target : Target) (vm : VmConfig) : Except Fault RegisterConfig :=
  let abi := Abi.of target.arch.name vm.windows
  match Register.allocatable target.arch.available abi.reserved
      (activeHeapBase target.arch.name vm) with
  | .error fault => .error fault
  | .ok allocatable =>
    match ofAllocatable target vm allocatable with
    | .error p => .error (.panic p)
    | .ok config => if config.isCovered then .ok config else .error (.panic .tooManyAllocatable)

/-- Registers a callee preserves: there are none. -/
def calleeSaved (_ : RegisterConfig) : Option (List Register) := none

/-- Whether a call may destroy every allocatable register. -/
def allAllocatableCallerSaved (_ : RegisterConfig) : Bool := true

/-- The parameter registers for a kind; panics for a kind without lane. -/
def parameterRegisters (config : RegisterConfig) (callType : CallType) (kind : Kind) :
    Except Panic (List Register) :=
  match kind.lane with
  | some .integer => .ok (config.abi.general callType)
  | some .float => .ok config.abi.float
  | none => .error (.noParameterRegisters kind)

/-- The register of a result, `none` for a kind without lane. -/
def returnRegister (config : RegisterConfig) (kind : Kind) : Option Register :=
  match kind.lane with
  | some .integer => some config.abi.integerReturn
  | some .float => some config.abi.floatReturn
  | none => none

/-- The locations of a call. -/
def callingConvention (config : RegisterConfig) (callType : CallType) (returnKind : Kind)
    (parameters : List Kind) : Except Panic CallingConvention :=
  match config.abi.pools callType config.target.wordSize with
  | .error p => .error p
  | .ok pools => pools.assign callType returnKind parameters

/-- The attributes of every register of the architecture, by number. -/
def attributes (config : RegisterConfig) : Except Panic (List Attributes) :=
  Attributes.table config.target.arch.registers config.callerSaved config.calleeSaved
    config.allocatable

/-- Allocatable and caller-saved registers, a line each. -/
def text (config : RegisterConfig) : String :=
  s!"Allocatable: [{Register.namesText config.allocatable}]\n" ++
  s!"CallerSave:  [{Register.namesText config.callerSaved}]\n"

end RegisterConfig
end JitBridge
