import JitBridge.Action
import JitBridge.Architecture.Amd64
import JitBridge.Code.Cache
import JitBridge.RegisterConfig
import JitBridge.Text.Case

/-!
Backends: the register configuration and the code cache of one architecture. A backend is made by a
factory, which is found by the name of the host architecture.
-/

namespace JitBridge

/-- What is specific to an architecture. -/
structure Backend where
  target : Target
  registers : RegisterConfig
  /-- The code cache before anything is installed in it. -/
  cache : CodeCache

namespace Backend

def arch (backend : Backend) : Arch := backend.target.arch.name

/-- The backend with an empty code cache. -/
def ofRegisters (target : Target) (registers : RegisterConfig) (decoder : Option Decoder) :
    Backend where
  target := target
  registers := registers
  cache := { target, decoder }

end Backend

/-- Makes the backend of an architecture. -/
structure BackendFactory where
  /-- The name under which the factory is found, in any case. -/
  architecture : String
  create : VmConfig → ExceptT Fault Emit Backend

namespace BackendFactory

/-- Makes the backend of `arch`, if the VM reports its word size. `report` is what is logged of the
register configuration. -/
def createFor (arch : Architecture) (decoder : Option Decoder)
    (report : RegisterConfig → String) (vm : VmConfig) : ExceptT Fault Emit Backend := do
  if vm.wordSize != arch.wordSize then
    throw (.error (.wordSizeMismatch arch.name.name arch.wordSize vm.wordSize))
  let target := Target.ofArchitecture arch 16 true
  let registers ← ExceptT.mk (pure (RegisterConfig.ofTarget target vm))
  ExceptT.lift (Emit.log .debug (report registers))
  return Backend.ofRegisters target registers decoder

/-- The factory of the x86-64 backend, which shows code through a decoder for that architecture. -/
def amd64 (decoder : Decoder) : BackendFactory where
  architecture := "amd64"
  create := fun vm => createFor Amd64.architecture (some decoder)
    (fun registers => s!"amd64 backend: {registers.allocatable.length} allocatable registers, " ++
      s!"compressed oops {vm.compressedReferences}, windows {vm.windows}") vm

/-- The factory of the AArch64 backend, which has no disassembler. -/
def aarch64 : BackendFactory where
  architecture := "aarch64"
  create := fun vm => createFor AArch64.architecture none
    (fun registers => s!"aarch64 backend: {registers.allocatable.length} allocatable registers, " ++
      s!"compressed oops {vm.compressedReferences}") vm

/-- The factories of the supported architectures. -/
def builtin (decoder : Decoder) : List BackendFactory := [amd64 decoder, aarch64]

/-- Whether the factory answers to a name. -/
def answersTo (factory : BackendFactory) (architecture : String) : Bool :=
  Text.sameIgnoringCase factory.architecture architecture

/-- The place of the first factory that answers to a name, with the factory. -/
def find (factories : List BackendFactory) (architecture : String) :
    Except Error (Nat × BackendFactory) :=
  match factories.zipIdx.find? (·.1.answersTo architecture) with
  | some (factory, place) => .ok (place, factory)
  | none => .error (.unsupportedArchitecture architecture)

end BackendFactory
end JitBridge
