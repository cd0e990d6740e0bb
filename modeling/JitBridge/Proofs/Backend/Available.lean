import JitBridge.Proofs.Backend.Builtin
import JitBridge.Proofs.Register.Attributes
import JitBridge.Proofs.Register.Counting

/-!
Register configurations over any list of available registers. A target may make only some registers
of its architecture available, in any order. `RegisterConfig.views_of_available` says when there is
a configuration then, and that its three views, the allocatable registers, those a call may destroy
and the attribute table, agree on every register of the architecture.

That the allocatable registers are found by counting what is left is the step that needs the list to
be free of duplicates: there `length_filter_not_mem` turns the count into membership.
-/

namespace JitBridge

/-! ### Architectures and interfaces -/

namespace Arch

/-- The registers of an architecture are listed by number. -/
theorem map_number (arch : Arch) :
    arch.architecture.registers.map (·.number.toNat) =
      List.range arch.architecture.registers.length := by
  cases arch <;> decide +kernel

theorem nodup_numbers (arch : Arch) : (arch.architecture.registers.map (·.number)).Nodup := by
  apply List.Nodup.of_map UInt16.toNat
  have listed := arch.map_number
  rw [List.map_map]
  show (arch.architecture.registers.map (·.number.toNat)).Nodup
  rw [listed]
  exact List.nodup_range

theorem nodup_registers (arch : Arch) : arch.architecture.registers.Nodup :=
  arch.nodup_numbers.of_map _

theorem length_registers_le (arch : Arch) :
    arch.architecture.registers.length ≤ RegisterSet.bound := by
  cases arch <;> decide

theorem tableSize (arch : Arch) :
    Attributes.tableSize arch.architecture.registers = arch.architecture.registers.length := by
  cases arch <;> decide +kernel

variable {arch : Arch} {r s : Register}

theorem number_lt_bound (known : r ∈ arch.architecture.registers) :
    r.number.toNat < RegisterSet.bound := by
  have listed : r.number.toNat ∈ arch.architecture.registers.map (·.number.toNat) :=
    List.mem_map.mpr ⟨r, known, rfl⟩
  rw [map_number, List.mem_range] at listed
  exact Nat.lt_of_lt_of_le listed arch.length_registers_le

/-- Registers of an architecture are told apart by their numbers. -/
theorem eq_of_number (rKnown : r ∈ arch.architecture.registers)
    (sKnown : s ∈ arch.architecture.registers) (same : r.number = s.number) : r = s :=
  Register.eq_of_mem_of_number arch.nodup_numbers rKnown sKnown same

theorem number_mem_iff {pool : List Register}
    (poolKnown : ∀ s ∈ pool, s ∈ arch.architecture.registers)
    (known : r ∈ arch.architecture.registers) :
    r.number ∈ pool.map (·.number) ↔ r ∈ pool := by
  constructor
  · intro listed
    obtain ⟨s, mem, same⟩ := List.mem_map.mp listed
    rwa [← eq_of_number (poolKnown s mem) known same]
  · intro mem
    exact List.mem_map.mpr ⟨r, mem, rfl⟩

end Arch

namespace Abi

/-- The registers withheld from the allocator: the reserved ones, and an active heap base. -/
def withheld (abi : Abi) (compressedReferences : Bool) : List Register :=
  if compressedReferences then abi.heapBase :: abi.reserved else abi.reserved

theorem mem_withheld_iff {abi : Abi} {compressedReferences : Bool} {r : Register} :
    r ∈ abi.withheld compressedReferences ↔
      r ∈ abi.reserved ∨ compressedReferences = true ∧ r = abi.heapBase := by
  cases compressedReferences with
  | false => simp [withheld]
  | true => simp [withheld, or_comm]

theorem nodup_withheld (arch : Arch) (windows compressedReferences : Bool) :
    ((of arch windows).withheld compressedReferences).Nodup := by
  cases arch <;> cases windows <;> cases compressedReferences <;> decide

theorem known_of_mem_withheld {arch : Arch} {windows compressedReferences : Bool} :
    ∀ r ∈ (of arch windows).withheld compressedReferences, r ∈ arch.architecture.registers := by
  cases arch <;> cases windows <;> cases compressedReferences <;> decide

theorem known_of_mem_reserved {arch : Arch} {windows : Bool} :
    ∀ r ∈ (of arch windows).reserved, r ∈ arch.architecture.registers :=
  @known_of_mem_withheld arch windows false

/-- The registers that carry parameters in some call, pool by pool. -/
def parameterPools (abi : Abi) : List (List Register) := [abi.float, abi.managed, abi.native]

theorem Coherent.known_of_mem_parameterPools {abi : Abi} {arch : Architecture}
    (coherent : abi.Coherent arch) {pool : List Register} (mem : pool ∈ abi.parameterPools) :
    ∀ r ∈ pool, r ∈ arch.registers := by
  simp only [parameterPools, List.mem_cons, List.not_mem_nil, or_false] at mem
  rcases mem with rfl | rfl | rfl
  · exact fun r own => coherent.known .managedCall r (List.mem_append_right _ own)
  · exact fun r own => coherent.known .managedCall r (List.mem_append_left _ own)
  · exact fun r own => coherent.known .nativeCall r (List.mem_append_left _ own)

end Abi

/-! ### What is left of the available registers -/

namespace RegisterConfig

variable {arch : Arch} {vm : VmConfig} {available : List Register}

theorem length_withheld (arch : Arch) (vm : VmConfig) :
    ((Abi.of arch vm.windows).withheld vm.compressedReferences).length =
      (Abi.of arch vm.windows).reserved.length + (activeHeapBase arch vm).isSome.toNat := by
  rw [Abi.withheld, activeHeapBase]
  split <;> rfl

/-- Of registers of the architecture, those are left that are not withheld. -/
theorem filter_eq_filter_withheld (known : ∀ r ∈ available, r ∈ arch.architecture.registers) :
    available.filter (fun r => r.number ∉ (Abi.of arch vm.windows).reserved.map (·.number) ∧
        some r ≠ activeHeapBase arch vm) =
      available.filter (· ∉ (Abi.of arch vm.windows).withheld vm.compressedReferences) := by
  refine List.filter_congr fun r mem => decide_eq_decide.mpr ?_
  have heapBase : some r = activeHeapBase arch vm ↔
      vm.compressedReferences = true ∧ r = (Abi.of arch vm.windows).heapBase := by
    rw [activeHeapBase]
    split <;> simp_all
  rw [Arch.number_mem_iff Abi.known_of_mem_reserved (known r mem), Abi.mem_withheld_iff, ne_eq,
    heapBase, not_or]

/-- The allocatable registers are found if everything withheld is available. -/
theorem allocatable_eq_ok_iff (distinct : available.Nodup)
    (known : ∀ r ∈ available, r ∈ arch.architecture.registers) {result : List Register} :
    Register.allocatable available (Abi.of arch vm.windows).reserved (activeHeapBase arch vm) =
        .ok result ↔
      (∀ r ∈ (Abi.of arch vm.windows).withheld vm.compressedReferences, r ∈ available) ∧
        result =
          available.filter (· ∉ (Abi.of arch vm.windows).withheld vm.compressedReferences) := by
  have inside : ∀ r ∈ (Abi.of arch vm.windows).reserved, r.number.toNat < RegisterSet.bound :=
    fun r mem => Arch.number_lt_bound (Abi.known_of_mem_reserved r mem)
  have once := Abi.nodup_withheld arch vm.windows vm.compressedReferences
  have counted := length_filter_not_mem distinct
    ((Abi.of arch vm.windows).withheld vm.compressedReferences)
  rw [and_iff_right once] at counted
  rw [Register.allocatable_eq_ok_iff, filter_eq_filter_withheld known, ← length_withheld, ← counted]
  constructor
  · rintro ⟨-, rfl, total⟩
    exact ⟨total, rfl⟩
  · rintro ⟨total, rfl⟩
    exact ⟨inside, rfl, total⟩

/-- What a call may destroy: the allocatable registers, and those of the parameter pools. -/
theorem callerSaved_eq_ok_iff {abi : Abi} (coherent : abi.Coherent arch.architecture)
    {allocatable result : List Register}
    (known : ∀ r ∈ allocatable, r ∈ arch.architecture.registers) :
    Register.callerSaved arch.architecture.registers (allocatable :: abi.parameterPools) =
        .ok result ↔
      result = arch.architecture.registers.filter fun r =>
        r ∈ allocatable ∨ ∃ pool ∈ abi.parameterPools, r ∈ pool := by
  have poolsKnown : ∀ pool ∈ allocatable :: abi.parameterPools,
      ∀ r ∈ pool, r ∈ arch.architecture.registers :=
    List.forall_mem_cons.mpr ⟨known, fun _ => coherent.known_of_mem_parameterPools⟩
  have inside : ∀ pool ∈ allocatable :: abi.parameterPools,
      ∀ r ∈ pool, r.number.toNat < RegisterSet.bound :=
    fun pool mem r own => Arch.number_lt_bound (poolsKnown pool mem r own)
  have selected : (arch.architecture.registers.filter fun r =>
        ∃ pool ∈ allocatable :: abi.parameterPools, r.number ∈ pool.map (·.number)) =
      arch.architecture.registers.filter fun r =>
        r ∈ allocatable ∨ ∃ pool ∈ abi.parameterPools, r ∈ pool := by
    refine List.filter_congr fun r own => decide_eq_decide.mpr ?_
    have among : (∃ pool ∈ allocatable :: abi.parameterPools, r.number ∈ pool.map (·.number)) ↔
        ∃ pool ∈ allocatable :: abi.parameterPools, r ∈ pool :=
      exists_congr fun pool => and_congr_right fun mem =>
        Arch.number_mem_iff (poolsKnown pool mem) own
    rw [among, List.exists_mem_cons_iff]
  rw [Register.callerSaved_eq_ok_iff, selected]
  exact and_iff_right inside

variable {target : Target}

/-- The allocatable registers are no more than a call may destroy. -/
theorem isCovered_of_subset {config : RegisterConfig} (distinct : config.allocatable.Nodup)
    (saved : ∀ r ∈ config.allocatable, r ∈ config.callerSaved) : config.isCovered = true := by
  unfold isCovered
  split
  · exact decide_eq_true (distinct.subperm saved).length_le
  · rfl

/-- Over available registers of the architecture there is a configuration if everything withheld is
available, and then the registers of its views are these. -/
theorem ofTarget_available_eq_ok_iff
    (own : target.arch = { arch.architecture with available := target.arch.available })
    (distinct : target.arch.available.Nodup)
    (known : ∀ r ∈ target.arch.available, r ∈ arch.architecture.registers)
    {config : RegisterConfig} :
    ofTarget target vm = .ok config ↔
      (∀ r ∈ (Abi.of arch vm.windows).withheld vm.compressedReferences,
        r ∈ target.arch.available) ∧
      config.target = target ∧ config.abi = Abi.of arch vm.windows ∧
      config.maxFrameSize = vm.maxFrameSize ∧
      config.allocatable = target.arch.available.filter
        (· ∉ (Abi.of arch vm.windows).withheld vm.compressedReferences) ∧
      config.callerSaved = arch.architecture.registers.filter fun r =>
        r ∈ config.allocatable ∨ ∃ pool ∈ (Abi.of arch vm.windows).parameterPools, r ∈ pool := by
  have name : target.arch.name = arch := by
    rw [own]
    exact arch.name_architecture
  have registers : target.arch.registers = arch.architecture.registers := by
    rw [own]
  rw [ofTarget_eq_ok_iff, name, registers]
  have selected (allocatable : config.allocatable = target.arch.available.filter
      (· ∉ (Abi.of arch vm.windows).withheld vm.compressedReferences)) :
      ∀ r ∈ config.allocatable, r ∈ arch.architecture.registers := by
    rw [allocatable]
    exact fun r mem => known r (List.mem_of_mem_filter mem)
  constructor
  · rintro ⟨rfl, abi, limit, left, saved, -⟩
    rw [abi] at left saved
    obtain ⟨all, allocatable⟩ := (allocatable_eq_ok_iff distinct known).mp left
    exact ⟨all, rfl, abi, limit, allocatable,
      (callerSaved_eq_ok_iff (Abi.coherent_of arch vm.windows) (selected allocatable)).mp saved⟩
  · rintro ⟨all, rfl, abi, limit, allocatable, saved⟩
    rw [abi]
    refine ⟨rfl, rfl, limit, (allocatable_eq_ok_iff distinct known).mpr ⟨all, allocatable⟩,
      (callerSaved_eq_ok_iff (Abi.coherent_of arch vm.windows) (selected allocatable)).mpr saved,
      isCovered_of_subset ?_ ?_⟩
    · rw [allocatable]
      exact distinct.filter _
    · rw [saved]
      exact fun r mem => List.mem_filter.mpr
        ⟨selected allocatable r mem, decide_eq_true (Or.inl mem)⟩

/-- There is a configuration if everything withheld is available. -/
theorem exists_config_iff
    (own : target.arch = { arch.architecture with available := target.arch.available })
    (distinct : target.arch.available.Nodup)
    (known : ∀ r ∈ target.arch.available, r ∈ arch.architecture.registers) :
    (∃ config, ofTarget target vm = .ok config) ↔
      ∀ r ∈ (Abi.of arch vm.windows).withheld vm.compressedReferences,
        r ∈ target.arch.available := by
  constructor
  · rintro ⟨config, made⟩
    exact ((ofTarget_available_eq_ok_iff own distinct known).mp made).1
  · intro all
    let left := target.arch.available.filter
      (· ∉ (Abi.of arch vm.windows).withheld vm.compressedReferences)
    let saved := arch.architecture.registers.filter fun r =>
      r ∈ left ∨ ∃ pool ∈ (Abi.of arch vm.windows).parameterPools, r ∈ pool
    exact ⟨⟨target, Abi.of arch vm.windows, left, saved, vm.maxFrameSize⟩,
      (ofTarget_available_eq_ok_iff own distinct known).mpr ⟨all, rfl, rfl, rfl, rfl, rfl⟩⟩

/-- Without one of the withheld registers the state is illegal. -/
theorem exists_reason_of_ofTarget
    (own : target.arch = { arch.architecture with available := target.arch.available })
    (distinct : target.arch.available.Nodup)
    (known : ∀ r ∈ target.arch.available, r ∈ arch.architecture.registers) {fault : Fault}
    (failed : ofTarget target vm = .error fault) :
    ∃ reason, fault = .error (.illegalState reason) := by
  have name : target.arch.name = arch := by
    rw [own]
    exact arch.name_architecture
  cases left : Register.allocatable target.arch.available (Abi.of arch vm.windows).reserved
      (activeHeapBase arch vm) with
  | error reported =>
    simp only [ofTarget, name, left] at failed
    cases failed
    exact Register.exists_reason_of_allocatable
      (fun r mem => Arch.number_lt_bound (Abi.known_of_mem_reserved r mem)) left
  | ok allocatable =>
    obtain ⟨config, made⟩ := (exists_config_iff own distinct known).mpr
      ((allocatable_eq_ok_iff distinct known).mp left).1
    rw [made] at failed
    cases failed

/-- No parameter register is withheld from the allocator. -/
theorem not_mem_parameterPools_of_mem_withheld {abi : Abi} {compressedReferences : Bool}
    (coherent : abi.Coherent arch.architecture) {r : Register}
    (kept : r ∈ abi.withheld compressedReferences) : ∀ pool ∈ abi.parameterPools, r ∉ pool := by
  have own : r ∈ abi.kept := by
    rcases Abi.mem_withheld_iff.mp kept with reserved | ⟨-, rfl⟩
    · exact List.mem_cons_of_mem _ (List.mem_cons_of_mem _ reserved)
    · exact List.mem_cons_of_mem _ (List.mem_cons_self ..)
  have apart (callType : CallType) (carries : r ∈ abi.parameterRegisters callType) : False :=
    coherent.free callType r carries r own rfl
  intro pool mem carries
  simp only [Abi.parameterPools, List.mem_cons, List.not_mem_nil, or_false] at mem
  rcases mem with rfl | rfl | rfl
  · exact apart .managedCall (List.mem_append_right _ carries)
  · exact apart .managedCall (List.mem_append_left _ carries)
  · exact apart .nativeCall (List.mem_append_left _ carries)

/-- The attribute table has an entry for each register of the architecture, with the roles that the
other two views give to the register. -/
theorem exists_attributes {config : RegisterConfig}
    (registers : config.target.arch.registers = arch.architecture.registers)
    (saved : ∀ r ∈ config.callerSaved, r ∈ arch.architecture.registers)
    (left : ∀ r ∈ config.allocatable, r ∈ arch.architecture.registers) :
    ∃ table, config.attributes = .ok table ∧
      table.length = arch.architecture.registers.length ∧
      ∀ r ∈ arch.architecture.registers, table[r.number.toNat]? = some
        { callerSave := r ∈ config.callerSaved
          calleeSave := false
          allocatable := r ∈ config.allocatable } := by
  have callee : ∀ r ∈ (none : Option (List Register)).getD [],
      r.number.toNat < RegisterSet.bound := nofun
  obtain ⟨table, made, size, entries⟩ :=
    @Attributes.getElem?_table arch.architecture.registers _ _ _
    (fun r mem => Arch.number_lt_bound (saved r mem)) callee
    (fun r mem => Arch.number_lt_bound (left r mem))
  refine ⟨table, ?_, size.trans arch.tableSize, fun r own => ?_⟩
  · rw [attributes, registers]
    exact made
  · have named {pool : List Register} (known : ∀ s ∈ pool, s ∈ arch.architecture.registers) :
        r.number.toNat ∈ pool.map (·.number.toNat) ↔ r ∈ pool := by
      rw [← Arch.number_mem_iff known own]
      simp only [List.mem_map, UInt16.toNat_inj]
    rw [entries _ (Attributes.lt_tableSize own), if_pos (List.mem_map.mpr ⟨r, own, rfl⟩)]
    simp only [Attributes.rolesOf, named saved, named left, Option.getD_none, List.map_nil,
      List.not_mem_nil, decide_false]

/-- A target that makes registers of its architecture available, each once and in any order, has a
configuration if the reserved registers and an active heap base are among them. The three views of
the configuration then agree on every register of the architecture. -/
theorem views_of_available (arch : Arch) (vm : VmConfig) (target : Target)
    (own : target.arch = { arch.architecture with available := target.arch.available })
    (distinct : target.arch.available.Nodup)
    (known : ∀ r ∈ target.arch.available, r ∈ arch.architecture.registers) :
    let abi := Abi.of arch vm.windows
    ((∃ config, ofTarget target vm = .ok config) ↔
        (∀ r ∈ abi.reserved, r ∈ target.arch.available) ∧
          (vm.compressedReferences = true → abi.heapBase ∈ target.arch.available)) ∧
      (∀ fault, ofTarget target vm = .error fault →
        ∃ reason, fault = .error (.illegalState reason)) ∧
      ∀ config, ofTarget target vm = .ok config →
        config.target = target ∧ config.abi = abi ∧
        config.allocatable = target.arch.available.filter (fun r =>
          r ∉ abi.reserved ∧ ¬ (vm.compressedReferences = true ∧ r = abi.heapBase)) ∧
        config.callerSaved = arch.architecture.registers.filter (fun r =>
          r ∈ config.allocatable ∨ r ∈ abi.managed ∨ r ∈ abi.native ∨ r ∈ abi.float) ∧
        config.callerSaved.Nodup ∧
        (∃ table, config.attributes = .ok table ∧
          table.length = arch.architecture.registers.length ∧
          ∀ r ∈ arch.architecture.registers, table[r.number.toNat]? = some
            { callerSave := r ∈ config.callerSaved
              calleeSave := false
              allocatable := r ∈ config.allocatable }) ∧
        (∀ r ∈ config.allocatable, r ∈ config.callerSaved) ∧
        config.allocatable.length ≤ config.callerSaved.length ∧
        ∀ r, r ∈ abi.reserved ∨ vm.compressedReferences = true ∧ r = abi.heapBase →
          r ∉ config.allocatable ∧ r ∉ config.callerSaved := by
  intro abi
  refine ⟨?made, fun fault => exists_reason_of_ofTarget own distinct known, ?views⟩
  case made =>
    rw [exists_config_iff own distinct known]
    simp only [Abi.mem_withheld_iff, or_imp, forall_and, and_imp, forall_eq_apply_imp_iff]
    tauto
  case views =>
    intro config made
    obtain ⟨-, isTarget, isAbi, -, left, saved⟩ :=
      (ofTarget_available_eq_ok_iff own distinct known).mp made
    have registers : config.target.arch.registers = arch.architecture.registers := by
      rw [isTarget, own]
    have leftKnown : ∀ r ∈ config.allocatable, r ∈ arch.architecture.registers := by
      rw [left]
      exact fun r mem => known r (List.mem_of_mem_filter mem)
    have savedKnown : ∀ r ∈ config.callerSaved, r ∈ arch.architecture.registers := by
      rw [saved]
      exact fun r mem => List.mem_of_mem_filter mem
    have covered : ∀ r ∈ config.allocatable, r ∈ config.callerSaved := by
      rw [saved]
      exact fun r mem => List.mem_filter.mpr ⟨leftKnown r mem, decide_eq_true (Or.inl mem)⟩
    have leftDistinct : config.allocatable.Nodup := by
      rw [left]
      exact distinct.filter _
    have savedDistinct : config.callerSaved.Nodup := by
      rw [saved]
      exact arch.nodup_registers.filter _
    refine ⟨isTarget, isAbi, ?_, ?_, savedDistinct,
      exists_attributes registers savedKnown leftKnown, covered,
      (leftDistinct.subperm covered).length_le, ?_⟩
    · rw [left]
      simp only [Abi.mem_withheld_iff, not_or, abi]
    · rw [saved]
      refine List.filter_congr fun r _ => decide_eq_decide.mpr ?_
      simp only [Abi.parameterPools, List.exists_mem_cons_iff, List.not_mem_nil, false_and,
        exists_false, or_false]
      tauto
    · intro r kept
      have withheld : r ∈ abi.withheld vm.compressedReferences := Abi.mem_withheld_iff.mpr kept
      have lost : r ∉ config.allocatable := by
        rw [left]
        exact fun mem => of_decide_eq_true (List.mem_filter.mp mem).2 withheld
      refine ⟨lost, ?_⟩
      rw [saved]
      intro mem
      rcases of_decide_eq_true (List.mem_filter.mp mem).2 with own | ⟨pool, isPool, carries⟩
      · exact lost own
      · exact not_mem_parameterPools_of_mem_withheld (Abi.coherent_of arch vm.windows) withheld
          pool isPool carries

/-- The available registers of x86-64 in reverse, with the heap base withheld as well. -/
theorem views_of_reversed_available :
    let target := { Arch.amd64.target with
      arch := { Amd64.architecture with available := Amd64.architecture.available.reverse } }
    ∃ config, ofTarget target { compressedReferences := true } = .ok config ∧
      config.allocatable = target.arch.available.filter
        (· ∉ [Amd64.rsp, Amd64.r12, Amd64.r15]) ∧
      Amd64.r12 ∉ config.callerSaved := by
  have views := views_of_available .amd64 { compressedReferences := true }
    { Arch.amd64.target with
      arch := { Amd64.architecture with available := Amd64.architecture.available.reverse } }
    rfl (by decide +kernel) (by decide +kernel)
  obtain ⟨config, made⟩ := views.1.mpr ⟨by decide +kernel, fun _ => by decide +kernel⟩
  obtain ⟨-, -, left, -, -, -, -, -, kept⟩ := views.2.2 config made
  exact ⟨config, made, left.trans (by decide +kernel), (kept Amd64.r12 (.inr ⟨rfl, rfl⟩)).2⟩

end RegisterConfig
end JitBridge
