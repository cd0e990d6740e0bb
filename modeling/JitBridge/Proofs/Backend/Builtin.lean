import JitBridge.Backend.Basic
import JitBridge.Proofs.Register.Selection

/-!
The built-in backends and their register configurations. A VM with words of 8 bytes gets a backend
from either factory, whatever else it reports (`BackendFactory.IsFor.exists_backend`), and
`BackendFactory.IsFor.of_backend` says what is in it.
`Abi.Coherent` is what the queries of a register configuration rely on in a platform's binary
interface, and every supported interface has it.
-/

namespace JitBridge

/-- The register file of an architecture. -/
def Arch.architecture : Arch → Architecture
  | .amd64 => Amd64.architecture
  | .aarch64 => AArch64.architecture

/-- The target for which an architecture has a backend. -/
def Arch.target (arch : Arch) : Target := .ofArchitecture arch.architecture 16 true

@[simp] theorem Arch.name_architecture (arch : Arch) : arch.architecture.name = arch := by
  cases arch <;> rfl

/-- Both architectures have words of 8 bytes. -/
theorem Arch.wordSize_architecture (arch : Arch) : arch.architecture.wordSize = 8 := by
  cases arch <;> rfl

@[simp] theorem Arch.arch_target (arch : Arch) : arch.target.arch = arch.architecture := rfl

/-! ### Binary interfaces -/

namespace Abi

/-- The parameter registers of a call, of both lanes. -/
def parameterRegisters (abi : Abi) (callType : CallType) : List Register :=
  abi.general callType ++ abi.float

/-- The registers that no parameter may use: those the allocator never gets, the one that holds the
frame, and the heap base. -/
def kept (abi : Abi) : List Register := abi.frame :: abi.heapBase :: abi.reserved

/-- An interface that fits an architecture: its parameter registers are distinct registers of the
architecture, each in the lane of its category, and none of them is kept. -/
structure Coherent (abi : Abi) (arch : Architecture) : Prop where
  few : ∀ callType, (abi.general callType).length ≤ 8
  distinct : ∀ callType, ((abi.parameterRegisters callType).map (·.number)).Nodup
  general : ∀ callType, ∀ r ∈ abi.general callType, r.category = .generalPurpose
  float : ∀ r ∈ abi.float, r.category = .floatingPoint
  known : ∀ callType, ∀ r ∈ abi.parameterRegisters callType, r ∈ arch.registers
  free : ∀ callType, ∀ r ∈ abi.parameterRegisters callType, ∀ s ∈ abi.kept, r.number ≠ s.number
  integerReturn_known : abi.integerReturn ∈ arch.registers
  /-- The integer result is in a parameter register, or in one that is always allocatable. -/
  integerReturn : abi.integerReturn ∈ abi.managed ∨ abi.integerReturn ∈ arch.available ∧
    abi.integerReturn.number ∉ abi.reserved.map (·.number) ∧ abi.integerReturn ≠ abi.heapBase
  floatReturn : abi.floatReturn ∈ abi.float

/-- Every supported interface fits its architecture. -/
theorem coherent_of (arch : Arch) (windows : Bool) :
    (of arch windows).Coherent arch.architecture where
  few callType := by cases arch <;> cases windows <;> cases callType <;> decide
  distinct callType := by cases arch <;> cases windows <;> cases callType <;> decide
  general callType := by cases arch <;> cases windows <;> cases callType <;> decide
  float := by cases arch <;> cases windows <;> decide
  known callType := by cases arch <;> cases windows <;> cases callType <;> decide
  free callType := by cases arch <;> cases windows <;> cases callType <;> decide
  integerReturn_known := by cases arch <;> cases windows <;> decide
  integerReturn := by cases arch <;> cases windows <;> decide
  floatReturn := by cases arch <;> cases windows <;> decide

end Abi

/-! ### Register configurations -/

namespace RegisterConfig

variable {target : Target} {vm : VmConfig}

/-- A configuration holds the target, its interface, the frame limit, and the two selections of
registers, as far as those cover each other. -/
theorem ofTarget_eq_ok_iff {config : RegisterConfig} :
    ofTarget target vm = .ok config ↔
      config.target = target ∧ config.abi = Abi.of target.arch.name vm.windows ∧
      config.maxFrameSize = vm.maxFrameSize ∧
      Register.allocatable target.arch.available config.abi.reserved
        (activeHeapBase target.arch.name vm) = .ok config.allocatable ∧
      Register.callerSaved target.arch.registers
        [config.allocatable, config.abi.float, config.abi.managed, config.abi.native] =
          .ok config.callerSaved ∧
      config.isCovered = true := by
  simp only [ofTarget, ofAllocatable]
  constructor
  · intro made
    cases left : Register.allocatable target.arch.available
        (Abi.of target.arch.name vm.windows).reserved (activeHeapBase target.arch.name vm) with
    | error fault => simp [left] at made
    | ok allocatable =>
      simp only [left] at made
      split at made
      · cases made
      · rename_i found
        split at found
        · cases found
        · rename_i saved selected
          cases found
          split at made
          · rename_i covered
            cases made
            exact ⟨rfl, rfl, rfl, left, selected, covered⟩
          · cases made
  · obtain ⟨own, abi, allocatable, saved, limit⟩ := config
    dsimp only
    rintro ⟨rfl, rfl, rfl, left, selected, covered⟩
    simp only [left, selected]
    exact if_pos covered

/-- The interface of a configuration fits the architecture. -/
theorem coherent {arch : Arch} {config : RegisterConfig}
    (made : ofTarget arch.target vm = .ok config) : config.abi.Coherent arch.architecture := by
  obtain ⟨-, abi, -⟩ := ofTarget_eq_ok_iff.mp made
  rw [abi, Arch.arch_target, Arch.name_architecture]
  exact Abi.coherent_of arch vm.windows

/-- The backends of both architectures find their configuration. Besides the two flags only the
frame limit enters it, which may be anything. -/
theorem exists_ofTarget (arch : Arch) (vm : VmConfig) :
    ∃ config, ofTarget arch.target vm = .ok config := by
  have tried : ∀ compressedReferences windows : Bool,
      (ofTarget arch.target { compressedReferences, windows }).isOk = true := by
    cases arch <;> decide +kernel
  specialize tried vm.compressedReferences vm.windows
  cases made : ofTarget arch.target
      { compressedReferences := vm.compressedReferences, windows := vm.windows } with
  | error fault =>
    rw [made] at tried
    cases tried
  | ok config =>
    obtain ⟨target, abi, -, left, selected, covered⟩ := ofTarget_eq_ok_iff.mp made
    exact ⟨{ config with maxFrameSize := vm.maxFrameSize },
      ofTarget_eq_ok_iff.mpr ⟨target, abi, rfl, left, selected, covered⟩⟩

end RegisterConfig

/-! ### Backends -/

namespace BackendFactory

/-- A factory makes a backend where the VM reports the word size of the architecture and there is a
register configuration. -/
theorem answer_createFor (arch : Architecture) (decoder : Option Decoder)
    (report : RegisterConfig → String) (vm : VmConfig) :
    (createFor arch decoder report vm).run.answer =
      if vm.wordSize = arch.wordSize then
        (RegisterConfig.ofTarget (.ofArchitecture arch 16 true) vm).map
          fun registers => .ofRegisters (.ofArchitecture arch 16 true) registers decoder
      else .error (.error (.wordSizeMismatch arch.name.name arch.wordSize vm.wordSize)) := by
  unfold createFor
  by_cases word : vm.wordSize = arch.wordSize
  · simp only [word, bne_self_eq_false, Bool.false_eq_true, if_false, if_true]
    cases RegisterConfig.ofTarget (.ofArchitecture arch 16 true) vm with
    | error fault => rfl
    | ok registers => rfl
  · have differs : (vm.wordSize != arch.wordSize) = true := bne_iff_ne.mpr word
    simp only [differs, if_true, if_neg word]
    rfl

/-- A factory of the backend of an architecture. -/
def IsFor (factory : BackendFactory) (arch : Arch) : Prop :=
  ∃ decoder, ∃ report : VmConfig → RegisterConfig → String,
    ∀ vm, factory.create vm = createFor arch.architecture decoder (report vm) vm

theorem isFor_amd64 (decoder : Decoder) : (amd64 decoder).IsFor .amd64 :=
  ⟨_, fun _ => _, fun _ => rfl⟩

theorem isFor_aarch64 : aarch64.IsFor .aarch64 := ⟨_, fun _ => _, fun _ => rfl⟩

theorem exists_isFor_of_mem_builtin {decoder : Decoder} {factory : BackendFactory}
    (mem : factory ∈ builtin decoder) : ∃ arch, factory.IsFor arch := by
  simp only [builtin, List.mem_cons, List.not_mem_nil, or_false] at mem
  rcases mem with rfl | rfl
  · exact ⟨.amd64, isFor_amd64 decoder⟩
  · exact ⟨.aarch64, isFor_aarch64⟩

variable {factory : BackendFactory} {arch : Arch} {vm : VmConfig}

/-- Words of 8 bytes are all that a backend needs. -/
theorem IsFor.exists_backend (made : factory.IsFor arch) (word : vm.wordSize = 8) :
    ∃ backend, (factory.create vm).run.answer = .ok backend := by
  obtain ⟨decoder, report, creates⟩ := made
  obtain ⟨registers, configured⟩ := RegisterConfig.exists_ofTarget arch vm
  have own : vm.wordSize = arch.architecture.wordSize := word.trans arch.wordSize_architecture.symm
  unfold Arch.target at configured
  rw [creates, answer_createFor, if_pos own, configured]
  exact ⟨_, rfl⟩

/-- A backend is that of the register configuration of its architecture's target. -/
theorem IsFor.exists_ofRegisters (made : factory.IsFor arch) {backend : Backend}
    (created : (factory.create vm).run.answer = .ok backend) :
    ∃ registers decoder, RegisterConfig.ofTarget arch.target vm = .ok registers ∧
      backend = .ofRegisters arch.target registers decoder := by
  obtain ⟨decoder, report, creates⟩ := made
  rw [creates, answer_createFor] at created
  split at created
  · unfold Arch.target
    cases configured : RegisterConfig.ofTarget (.ofArchitecture arch.architecture 16 true) vm with
    | error fault =>
      rw [configured] at created
      cases created
    | ok registers =>
      rw [configured] at created
      cases created
      exact ⟨registers, decoder, rfl, rfl⟩
  · cases created

theorem IsFor.of_backend (made : factory.IsFor arch) {backend : Backend}
    (created : (factory.create vm).run.answer = .ok backend) :
    RegisterConfig.ofTarget arch.target vm = .ok backend.registers := by
  obtain ⟨registers, decoder, configured, rfl⟩ := made.exists_ofRegisters created
  exact configured

theorem IsFor.arch_of_backend (made : factory.IsFor arch) {backend : Backend}
    (created : (factory.create vm).run.answer = .ok backend) : backend.arch = arch := by
  obtain ⟨registers, decoder, -, rfl⟩ := made.exists_ofRegisters created
  exact arch.name_architecture

end BackendFactory
end JitBridge
