import JitBridge.Proofs.Backend.Builtin
import JitBridge.Proofs.Convention.Area
import JitBridge.Proofs.Convention.Slots

/-!
The answers of a register configuration fit each other. A convention, the parameter registers of a
kind, its result register, the registers a call may destroy and those that are kept come from
separate queries; `CallingConvention.Agrees` says how a convention has to fit the others, and
`BackendFactory.callingConvention_agrees` that it does, in every backend that a built-in factory
makes.

That no register is handed out twice is a fact about the closed form of `Pools.locations`: a later
parameter of the same lane stands further in the pool, and the pools of the two lanes are disjoint.
-/

namespace JitBridge

/-! ### The registers that a walk hands out -/

namespace Pools

variable (pools : Pools)

@[simp] theorem register?_location (callType : CallType) (earlier : List Kind) (kind : Kind) :
    (pools.location callType earlier kind).register? = pools.register? earlier kind := by
  cases found : pools.register? earlier kind with
  | some register => rw [location_of_register pools callType found, Location.register?]
  | none => rw [location_of_none pools callType found, Location.register?]

/-- The registers handed out to `kinds` stand in their pools behind those of `earlier`. -/
theorem exists_of_mem_registers {callType : CallType} {earlier kinds : List Kind}
    {register : Register}
    (mem : register ∈ (pools.locations callType earlier kinds).filterMap Location.register?) :
    ∃ lane n, lane.count earlier ≤ n ∧ (pools.arguments lane)[n]? = some register := by
  induction kinds generalizing earlier with
  | nil => simp [locations] at mem
  | cons kind kinds ih =>
    simp only [locations, List.mem_filterMap, List.mem_cons, exists_eq_or_imp,
      register?_location] at mem
    rcases mem with found | later
    · unfold register? at found
      obtain ⟨lane, -, found⟩ := Option.bind_eq_some_iff.mp found
      exact ⟨lane, _, Nat.le_refl _, found⟩
    · obtain ⟨lane, n, behind, found⟩ := ih (List.mem_filterMap.mpr later)
      refine ⟨lane, n, Nat.le_trans ?_ behind, found⟩
      rw [Lane.count_append_singleton]
      exact Nat.le_add_right _ _

/-- Where an entry of a pool stands when the pools are put behind each other. -/
theorem exists_place {lane : Lane} {n : Nat} {r : Register}
    (found : (pools.arguments lane)[n]? = some r) :
    ∃ place, ((pools.general ++ pools.float).map (·.number))[place]? = some r.number ∧
      (lane = .integer ∧ place = n ∧ n < pools.general.length ∨
        lane = .float ∧ place = pools.general.length + n) := by
  rw [List.map_append]
  cases lane with
  | integer =>
    simp only [arguments] at found
    obtain ⟨inside, -⟩ := List.getElem?_eq_some_iff.mp found
    refine ⟨n, ?_, .inl ⟨rfl, rfl, inside⟩⟩
    rw [List.getElem?_append_left (by simpa using inside), List.getElem?_map, found,
      Option.map_some]
  | float =>
    simp only [arguments] at found
    refine ⟨pools.general.length + n, ?_, .inr ⟨rfl, rfl⟩⟩
    rw [List.getElem?_append_right (by simp), List.getElem?_map, List.length_map,
      Nat.add_sub_cancel_left, found, Option.map_some]

/-- With no number twice in the pools, a number stands in one lane and in one place. -/
theorem eq_of_number (distinct : ((pools.general ++ pools.float).map (·.number)).Nodup)
    {lane lane' : Lane} {n m : Nat} {r s : Register}
    (first : (pools.arguments lane)[n]? = some r) (second : (pools.arguments lane')[m]? = some s)
    (same : r.number = s.number) : lane = lane' ∧ n = m := by
  obtain ⟨place, found, stands⟩ := pools.exists_place first
  obtain ⟨place', found', stands'⟩ := pools.exists_place second
  have inside := (List.getElem?_eq_some_iff.mp found).1
  rw [same, ← found'] at found
  have places : place = place' := (List.getElem?_inj inside distinct).mp found
  rcases stands with ⟨rfl, rfl, bound⟩ | ⟨rfl, rfl⟩
  · rcases stands' with ⟨rfl, rfl, -⟩ | ⟨rfl, rfl⟩
    · exact ⟨rfl, places⟩
    · omega
  · rcases stands' with ⟨rfl, rfl, bound⟩ | ⟨rfl, rfl⟩
    · omega
    · exact ⟨rfl, by omega⟩

/-- No register is handed out twice. The induction follows the walk, which puts the registers of the
later parameters behind the one of the first. -/
theorem pairwise_registers (distinct : ((pools.general ++ pools.float).map (·.number)).Nodup)
    (callType : CallType) (earlier kinds : List Kind) :
    ((pools.locations callType earlier kinds).filterMap Location.register?).Pairwise
      (·.number ≠ ·.number) := by
  induction kinds generalizing earlier with
  | nil => simp [locations]
  | cons kind kinds ih =>
    rw [locations, List.filterMap_cons, register?_location]
    cases found : pools.register? earlier kind with
    | none => exact ih _
    | some register =>
      apply List.Pairwise.cons _ (ih _)
      intro other later same
      unfold register? at found
      obtain ⟨lane, travels, found⟩ := Option.bind_eq_some_iff.mp found
      obtain ⟨lane', n, behind, found'⟩ := pools.exists_of_mem_registers later
      obtain ⟨rfl, rfl⟩ := pools.eq_of_number distinct found found' same
      rw [Lane.count_append_singleton, if_pos travels] at behind
      omega

/-- The convention of the closed form. -/
def convention (callType : CallType) (returnKind : Kind) (parameters : List Kind) :
    CallingConvention where
  stackSize := pools.areaEnd parameters
  result := returnKind.lane.map fun lane => .register (pools.result lane) returnKind.widened
  arguments := pools.locations callType [] parameters

@[simp] theorem stackSize_convention (callType : CallType) (returnKind : Kind)
    (parameters : List Kind) :
    (pools.convention callType returnKind parameters).stackSize = pools.areaEnd parameters := rfl

@[simp] theorem result_convention (callType : CallType) (returnKind : Kind)
    (parameters : List Kind) :
    (pools.convention callType returnKind parameters).result =
      returnKind.lane.map fun lane => .register (pools.result lane) returnKind.widened := rfl

@[simp] theorem arguments_convention (callType : CallType) (returnKind : Kind)
    (parameters : List Kind) :
    (pools.convention callType returnKind parameters).arguments =
      pools.locations callType [] parameters := rfl

end Pools

/-! ### Agreement -/

/-- The registers of the arguments, in order. -/
def CallingConvention.argumentRegisters (convention : CallingConvention) : List Register :=
  convention.arguments.filterMap Location.register?

/-- A convention that fits the other answers of its register configuration. -/
structure CallingConvention.Agrees (config : RegisterConfig) (callType : CallType)
    (returnKind : Kind) (parameters : List Kind) (convention : CallingConvention) : Prop where
  length : convention.arguments.length = parameters.length
  distinct : convention.argumentRegisters.Pairwise (·.number ≠ ·.number)
  /-- An argument has the parameter register of its kind that the earlier arguments of its lane
  leave, or none where they leave none. -/
  argument : ∀ (i : Nat) kind, parameters[i]? = some kind → ∃ lane pool, kind.lane = some lane ∧
    config.parameterRegisters callType kind = .ok pool ∧
    convention.arguments[i]?.bind Location.register? = pool[lane.count (parameters.take i)]?
  stored : ∀ (i : Nat) kind register, parameters[i]? = some kind →
    convention.arguments[i]?.bind Location.register? = some register →
    register.category.canStore kind = true
  result : convention.result.bind Location.register? = config.returnRegister returnKind
  result_none : convention.result = none ↔ config.returnRegister returnKind = none
  saved : ∀ register ∈ convention.argumentRegisters ++ (config.returnRegister returnKind).toList,
    register ∈ config.callerSaved
  free : ∀ register ∈ convention.argumentRegisters, ∀ s ∈ config.abi.kept,
    register.number ≠ s.number

namespace Abi

variable {abi : Abi} {callType : CallType} {wordSize : Nat} {pools : Pools}

/-- The home space of a call is a word for each integer parameter register at most. -/
theorem homeSpace_le_of_pools (made : abi.pools callType wordSize = .ok pools) :
    pools.homeSpace ≤ (abi.general callType).length * wordSize := by
  obtain ⟨homeSpace, space, rfl⟩ := abi.of_pools callType made
  rcases abi.of_homeSpace callType space with rfl | rfl
  · exact Nat.le_refl _
  · exact Nat.zero_le _

/-- A walk over the pools of a call hands out its parameter registers. -/
theorem mem_parameterRegisters_of_pools (made : abi.pools callType wordSize = .ok pools)
    {earlier kinds : List Kind} {r : Register}
    (mem : r ∈ (pools.locations callType earlier kinds).filterMap Location.register?) :
    r ∈ abi.parameterRegisters callType := by
  obtain ⟨lane, n, -, found⟩ := pools.exists_of_mem_registers mem
  obtain ⟨homeSpace, -, rfl⟩ := abi.of_pools callType made
  have stands := List.mem_of_getElem? found
  cases lane with
  | integer => exact List.mem_append_left _ stands
  | float => exact List.mem_append_right _ stands

/-- Where the interface fits an architecture, a register that is handed out can hold the kind it is
handed out for. -/
theorem Coherent.canStore {arch : Architecture} (coherent : abi.Coherent arch)
    (made : abi.pools callType wordSize = .ok pools) {earlier : List Kind} {kind : Kind}
    {r : Register} (found : pools.register? earlier kind = some r) :
    r.category.canStore kind = true := by
  obtain ⟨homeSpace, -, rfl⟩ := abi.of_pools callType made
  unfold Pools.register? at found
  obtain ⟨lane, travels, found⟩ := Option.bind_eq_some_iff.mp found
  have stands := List.mem_of_getElem? found
  cases lane with
  | integer => simp [coherent.general callType r stands, Category.canStore, travels]
  | float => simp [coherent.float r stands, Category.canStore, travels]

end Abi

namespace RegisterConfig

variable {config : RegisterConfig} {arch : Arch} {vm : VmConfig}

/-- A call may destroy the registers of its parameters. -/
theorem mem_callerSaved_of_parameter (made : ofTarget arch.target vm = .ok config)
    (callType : CallType) {r : Register} (mem : r ∈ config.abi.parameterRegisters callType) :
    r ∈ config.callerSaved := by
  obtain ⟨-, -, -, -, selected, -⟩ := ofTarget_eq_ok_iff.mp made
  rw [Register.mem_callerSaved_iff selected]
  refine ⟨(coherent made).known callType r mem, ?_⟩
  rcases List.mem_append.mp mem with general | float
  · unfold Abi.general at general
    split at general
    · exact ⟨config.abi.native, by simp, List.mem_map_of_mem general⟩
    · exact ⟨config.abi.managed, by simp, List.mem_map_of_mem general⟩
  · exact ⟨config.abi.float, by simp, List.mem_map_of_mem float⟩

/-- A call may destroy the register of its result: on x86-64 the integer result is in an allocatable
register, and all the other ones are parameter registers. -/
theorem mem_callerSaved_of_return (made : ofTarget arch.target vm = .ok config)
    {kind : Kind} {r : Register} (returned : config.returnRegister kind = some r) :
    r ∈ config.callerSaved := by
  have coherent := coherent made
  obtain ⟨-, abi, -, left, selected, -⟩ := ofTarget_eq_ok_iff.mp made
  unfold returnRegister at returned
  split at returned
  · cases returned
    rcases coherent.integerReturn with managed | ⟨available, unreserved, notBase⟩
    · exact mem_callerSaved_of_parameter made .managedCall (List.mem_append_left _ managed)
    · rw [Register.mem_callerSaved_iff selected]
      refine ⟨coherent.integerReturn_known, config.allocatable, by simp, List.mem_map_of_mem ?_⟩
      rw [Register.mem_allocatable_iff left]
      refine ⟨available, unreserved, ?_⟩
      unfold activeHeapBase
      rw [← abi]
      split
      · exact fun same => notBase (Option.some.inj same)
      · exact nofun
  · cases returned
    exact mem_callerSaved_of_parameter made .managedCall
      (List.mem_append_right _ coherent.floatReturn)
  · cases returned

/-- The parameter registers of a kind are the pool of its lane. -/
theorem parameterRegisters_of_lane {callType : CallType} {wordSize : Nat} {pools : Pools}
    (drawn : config.abi.pools callType wordSize = .ok pools) {kind : Kind} {lane : Lane}
    (travels : kind.lane = some lane) :
    config.parameterRegisters callType kind = .ok (pools.arguments lane) := by
  obtain ⟨homeSpace, -, rfl⟩ := config.abi.of_pools callType drawn
  unfold parameterRegisters
  cases lane with
  | integer => simp only [travels, Pools.arguments]
  | float => simp only [travels, Pools.arguments]

theorem returnRegister_eq {callType : CallType} {wordSize : Nat} {pools : Pools}
    (drawn : config.abi.pools callType wordSize = .ok pools) (kind : Kind) :
    config.returnRegister kind = kind.lane.map pools.result := by
  obtain ⟨homeSpace, -, rfl⟩ := config.abi.of_pools callType drawn
  unfold returnRegister
  cases kind.lane with
  | none => rfl
  | some lane =>
    cases lane with
    | integer => rfl
    | float => rfl

variable {callType : CallType} {returnKind : Kind} {parameters : List Kind}

/-- The convention of a signature whose parameters have a lane is the closed form over the pools of
its call, if the argument area ends at a size. -/
theorem callingConvention_eq {pools : Pools}
    (drawn : config.abi.pools callType config.target.wordSize = .ok pools)
    (passable : ∀ kind ∈ parameters, kind.lane.isSome) :
    config.callingConvention callType returnKind parameters =
      if pools.HasRoom [] parameters then .ok (pools.convention callType returnKind parameters)
      else .error (.overflow .add) := by
  unfold callingConvention
  rw [drawn]
  exact pools.assign_eq callType returnKind passable

/-- A convention is the closed form over the pools of its call. -/
theorem of_callingConvention (passable : ∀ kind ∈ parameters, kind.lane.isSome)
    {convention : CallingConvention}
    (assigned : config.callingConvention callType returnKind parameters = .ok convention) :
    ∃ pools, config.abi.pools callType config.target.wordSize = .ok pools ∧
      convention = pools.convention callType returnKind parameters := by
  cases drawn : config.abi.pools callType config.target.wordSize with
  | error panic =>
    unfold callingConvention at assigned
    rw [drawn] at assigned
    cases assigned
  | ok pools =>
    rw [callingConvention_eq drawn passable] at assigned
    split at assigned
    · cases assigned
      exact ⟨pools, rfl, rfl⟩
    · cases assigned

/-- There is a convention for every signature whose parameters have a lane, if there are not more of
them than words of memory. -/
theorem exists_callingConvention (made : ofTarget arch.target vm = .ok config)
    (passable : ∀ kind ∈ parameters, kind.lane.isSome) (fits : parameters.length + 8 < 2 ^ 61) :
    ∃ convention, config.callingConvention callType returnKind parameters = .ok convention := by
  obtain ⟨target, -⟩ := ofTarget_eq_ok_iff.mp made
  have word : config.target.wordSize = 8 := by
    rw [target]
    exact arch.wordSize_architecture
  have limit : Size.limit = 2 ^ 64 := rfl
  have few := (coherent made).few callType
  have home : (config.abi.general callType).length * 8 < Size.limit := by omega
  obtain ⟨pools, drawn⟩ := config.abi.exists_pools callType home
  obtain ⟨own, -⟩ := config.abi.dvd_of_pools callType drawn
  have space := Abi.homeSpace_le_of_pools drawn
  have area := pools.areaEnd_le (Nat.le_of_eq own.symm) parameters
  rw [own] at area
  have room : pools.HasRoom [] parameters := by
    right
    rw [List.nil_append]
    omega
  rw [← word] at drawn
  rw [callingConvention_eq drawn passable, if_pos room]
  exact ⟨_, rfl⟩

/-- Every convention fits the other answers of its configuration. -/
theorem agrees (made : ofTarget arch.target vm = .ok config)
    (passable : ∀ kind ∈ parameters, kind.lane.isSome) {convention : CallingConvention}
    (assigned : config.callingConvention callType returnKind parameters = .ok convention) :
    convention.Agrees config callType returnKind parameters := by
  obtain ⟨pools, drawn, same⟩ := of_callingConvention passable assigned
  have arguments : convention.arguments = pools.locations callType [] parameters := by
    rw [same, Pools.arguments_convention]
  have result : convention.result = returnKind.lane.map fun lane =>
      .register (pools.result lane) returnKind.widened := by
    rw [same, Pools.result_convention]
  have coherent := coherent made
  have located : ∀ (i : Nat) kind, parameters[i]? = some kind →
      convention.arguments[i]?.bind Location.register? =
        pools.register? (parameters.take i) kind := by
    intro i kind found
    rw [arguments, Pools.getElem?_locations, found, Option.map_some, Option.bind_some,
      List.nil_append, Pools.register?_location]
  have parameter : ∀ register ∈ convention.argumentRegisters,
      register ∈ config.abi.parameterRegisters callType := by
    intro register mem
    unfold CallingConvention.argumentRegisters at mem
    rw [arguments] at mem
    exact Abi.mem_parameterRegisters_of_pools drawn mem
  have returned := returnRegister_eq drawn returnKind
  constructor
  case length => rw [arguments, Pools.length_locations]
  case distinct =>
    unfold CallingConvention.argumentRegisters
    rw [arguments]
    apply pools.pairwise_registers
    obtain ⟨homeSpace, -, rfl⟩ := config.abi.of_pools callType drawn
    exact coherent.distinct callType
  case argument =>
    intro i kind found
    obtain ⟨lane, travels⟩ :=
      Option.isSome_iff_exists.mp (passable kind (List.mem_of_getElem? found))
    refine ⟨lane, _, travels, parameterRegisters_of_lane drawn travels, ?_⟩
    rw [located i kind found, Pools.register?_of_lane pools travels]
  case stored =>
    intro i kind register found held
    rw [located i kind found] at held
    exact coherent.canStore drawn held
  case result =>
    rw [result, returned]
    cases returnKind.lane <;> rfl
  case result_none => rw [result, returned, Option.map_eq_none_iff, Option.map_eq_none_iff]
  case saved =>
    intro register mem
    rcases List.mem_append.mp mem with mem | mem
    · exact mem_callerSaved_of_parameter made callType (parameter register mem)
    · exact mem_callerSaved_of_return made (Option.mem_toList.mp mem)
  case free =>
    intro register mem
    exact coherent.free callType register (parameter register mem)

end RegisterConfig

namespace BackendFactory

/-- Both built-in factories make a backend for every VM with words of 8 bytes, and in every backend
they make, each convention fits the other answers of the register configuration. -/
theorem callingConvention_agrees {decoder : Decoder} {factory : BackendFactory}
    (mem : factory ∈ builtin decoder) (vm : VmConfig) :
    (vm.wordSize = 8 → ∃ backend, (factory.create vm).run.answer = .ok backend) ∧
    ∀ backend, (factory.create vm).run.answer = .ok backend →
      ∀ callType returnKind parameters, (∀ kind ∈ parameters, kind.lane.isSome) →
        (parameters.length + 8 < 2 ^ 61 → ∃ convention,
          backend.registers.callingConvention callType returnKind parameters = .ok convention) ∧
        ∀ convention,
          backend.registers.callingConvention callType returnKind parameters = .ok convention →
          convention.Agrees backend.registers callType returnKind parameters := by
  obtain ⟨arch, own⟩ := exists_isFor_of_mem_builtin mem
  refine ⟨own.exists_backend, ?_⟩
  intro backend created callType returnKind parameters passable
  have made := own.of_backend created
  constructor
  · intro fits
    exact RegisterConfig.exists_callingConvention made passable fits
  · intro convention assigned
    exact RegisterConfig.agrees made passable assigned

/-- A native call on Windows: the last integer parameter spills, the `double` has a register. -/
theorem callingConvention_agrees_on_windows :
    amd64 .bytewise ∈ builtin .bytewise ∧ ∃ backend convention,
      ((amd64 .bytewise).create { windows := true }).run.answer = .ok backend ∧
      backend.registers.callingConvention .nativeCall .long
        [.int, .object, .long, .double, .int, .byte] = .ok convention ∧
      convention.Agrees backend.registers .nativeCall .long
        [.int, .object, .long, .double, .int, .byte] := by
  have mem : amd64 .bytewise ∈ builtin .bytewise := List.mem_cons_self
  refine ⟨mem, ?_⟩
  obtain ⟨makes, agrees⟩ := callingConvention_agrees mem { windows := true }
  obtain ⟨backend, created⟩ := makes rfl
  obtain ⟨exists', agrees⟩ := agrees backend created .nativeCall .long
    [.int, .object, .long, .double, .int, .byte] (by decide)
  obtain ⟨convention, assigned⟩ := exists' (by decide)
  exact ⟨backend, convention, created, assigned, agrees convention assigned⟩

end BackendFactory
end JitBridge
