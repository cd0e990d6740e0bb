import JitBridge.Proofs.Backend.Builtin
import JitBridge.Proofs.Convention.Lanes

/-!
The size of an argument area by counting. Where words are as wide as any kind, every slot is one
word, so the area ends at the home space and a word for each parameter that is too many in its lane
(`Pools.areaEnd_of_wide`). That number, and the registers that a lane hands out
(`Pools.laneRegisters_locations`), depend on how many parameters each lane has and not on their
order; so do the conventions, and a signature that has none has none in any order.
-/

namespace JitBridge

/-! ### Lanes by number -/

namespace Lane

variable {kinds : List Kind}

/-- Kinds that can be passed travel in one of the two lanes. -/
theorem count_add_count (passable : ∀ kind ∈ kinds, kind.lane.isSome) :
    integer.count kinds + float.count kinds = kinds.length := by
  induction kinds with
  | nil => rfl
  | cons kind kinds ih =>
    obtain ⟨own, rest⟩ := List.forall_mem_cons.mp passable
    obtain ⟨lane, travels⟩ := Option.isSome_iff_exists.mp own
    have ih := ih rest
    rw [count_cons, count_cons, travels, List.length_cons]
    cases lane with
    | integer =>
      simp
      omega
    | float =>
      simp
      omega

theorem count_perm (lane : Lane) {others : List Kind} (order : kinds.Perm others) :
    lane.count kinds = lane.count others :=
  order.countP_eq _

end Lane

namespace Pools

variable (pools : Pools)

/-! ### Spilled parameters by number -/

theorem lane_of_mem_spilled {earlier kinds : List Kind}
    (passable : ∀ kind ∈ kinds, kind.lane.isSome) :
    ∀ kind ∈ pools.spilled earlier kinds, kind.lane.isSome := by
  induction kinds generalizing earlier with
  | nil => simp [spilled]
  | cons kind kinds ih =>
    obtain ⟨own, rest⟩ := List.forall_mem_cons.mp passable
    cases found : pools.register? earlier kind with
    | some register =>
      rw [spilled_cons_of_register pools found]
      exact ih rest
    | none =>
      rw [spilled_cons_of_none pools found, List.forall_mem_cons, Kind.lane_widened]
      exact ⟨own, ih rest⟩

/-- How many parameters are too many for their lanes. -/
def excess (kinds : List Kind) : Nat :=
  (Lane.integer.count kinds - pools.general.length) +
    (Lane.float.count kinds - pools.float.length)

theorem excess_eq_zero_iff (kinds : List Kind) :
    pools.excess kinds = 0 ↔ Lane.integer.count kinds ≤ pools.general.length ∧
      Lane.float.count kinds ≤ pools.float.length := by
  unfold excess
  omega

theorem excess_perm {kinds others : List Kind} (order : kinds.Perm others) :
    pools.excess kinds = pools.excess others := by
  rw [excess, excess, Lane.count_perm _ order, Lane.count_perm _ order]

/-- As many parameters spill as are too many for their lanes, in whichever order they come. -/
theorem length_spilled {kinds : List Kind} (passable : ∀ kind ∈ kinds, kind.lane.isSome) :
    (pools.spilled [] kinds).length = pools.excess kinds := by
  have integers := pools.count_spilled .integer [] kinds
  have floats := pools.count_spilled .float [] kinds
  simp only [List.nil_append, arguments] at integers floats
  rw [← Lane.count_add_count (pools.lane_of_mem_spilled passable), excess]
  have none : ∀ lane : Lane, lane.count [] = 0 := fun _ => rfl
  simp only [none] at integers floats
  omega

/-! ### Slots of one word -/

section

variable (wide : 8 ≤ pools.wordSize)

include wide

/-- No kind is wider than 8 bytes. -/
theorem slotSize_of_wide (kind : Kind) : pools.slotSize kind = pools.wordSize := by
  have natural : kind.size ≤ 8 := by cases kind <;> decide
  exact Nat.max_eq_right (Nat.le_trans natural wide)

theorem spilledSize_of_wide (earlier kinds : List Kind) :
    pools.spilledSize earlier kinds = pools.wordSize * (pools.spilled earlier kinds).length := by
  have words : pools.slotSize = fun _ => pools.wordSize := funext (pools.slotSize_of_wide wide)
  rw [spilledSize, words, List.map_const', List.sum_replicate_nat, Nat.mul_comm]

theorem areaEnd_of_wide {kinds : List Kind} (passable : ∀ kind ∈ kinds, kind.lane.isSome) :
    pools.areaEnd kinds = pools.homeSpace + pools.wordSize * pools.excess kinds := by
  rw [areaEnd, spilledSize_of_wide pools wide, length_spilled pools passable]

/-- The slots have room if there are none, or if the last word ends at a size. -/
theorem hasRoom_of_wide {kinds : List Kind} (passable : ∀ kind ∈ kinds, kind.lane.isSome) :
    pools.HasRoom [] kinds ↔ pools.excess kinds = 0 ∨
      pools.homeSpace + pools.wordSize * pools.excess kinds < Size.limit := by
  rw [HasRoom, List.nil_append, areaEnd_of_wide pools wide passable,
    ← length_spilled pools passable,
    List.length_eq_zero_iff]

end

/-- A parameter takes at most one word, in a register or in the area. -/
theorem length_spilled_le (earlier kinds : List Kind) :
    (pools.spilled earlier kinds).length ≤ kinds.length := by
  induction kinds generalizing earlier with
  | nil => simp [spilled]
  | cons kind kinds ih =>
    have rest := ih (earlier ++ [kind])
    cases found : pools.register? earlier kind with
    | some register =>
      rw [spilled_cons_of_register pools found, List.length_cons]
      omega
    | none =>
      rw [spilled_cons_of_none pools found, List.length_cons, List.length_cons]
      omega

/-- With words at least as wide as every kind, a parameter takes at most a word of the area. -/
theorem areaEnd_le (wide : 8 ≤ pools.wordSize) (kinds : List Kind) :
    pools.areaEnd kinds ≤ pools.homeSpace + pools.wordSize * kinds.length := by
  rw [areaEnd, spilledSize_of_wide pools wide]
  exact Nat.add_le_add_left (Nat.mul_le_mul_left _ (pools.length_spilled_le [] kinds)) _

end Pools

/-! ### Registers by number -/

/-- The register of an argument that travels in the lane. -/
def Location.laneRegister? (lane : Lane) (location : Location) : Option Register :=
  if location.kind.lane = some lane then location.register? else none

/-- The registers of the arguments that travel in a lane, in order. -/
def CallingConvention.laneRegisters (convention : CallingConvention) (lane : Lane) :
    List Register :=
  convention.arguments.filterMap (Location.laneRegister? lane)

namespace Pools

variable (pools : Pools)

/-- A lane hands out its pool from the front, whatever the other lane does in between. -/
theorem laneRegisters_locations (callType : CallType) (lane : Lane) (earlier kinds : List Kind) :
    (pools.locations callType earlier kinds).filterMap (Location.laneRegister? lane) =
      ((pools.arguments lane).drop (lane.count earlier)).take (lane.count kinds) := by
  induction kinds generalizing earlier with
  | nil => simp [locations, Lane.count]
  | cons kind kinds ih =>
    have ih := ih (earlier ++ [kind])
    rw [Lane.count_append_singleton] at ih
    rw [locations, List.filterMap_cons, Lane.count_cons, ih]
    by_cases own : kind.lane = some lane
    · rw [if_pos own]
      have next := register?_of_lane pools own earlier
      cases found : pools.register? earlier kind with
      | some register =>
        rw [found] at next
        obtain ⟨inside, first⟩ := List.getElem?_eq_some_iff.mp next.symm
        rw [location_of_register pools callType found, List.drop_eq_getElem_cons inside, first,
          List.take_succ_cons]
        simp [Location.laneRegister?, Location.kind, Location.register?, own]
      | none =>
        rw [found] at next
        have beyond := List.getElem?_eq_none_iff.mp next.symm
        rw [location_of_none pools callType found, List.drop_eq_nil_of_le beyond,
          List.drop_eq_nil_of_le (Nat.le_succ_of_le beyond)]
        simp [Location.laneRegister?, Location.kind, Location.register?]
    · rw [if_neg own, Nat.add_zero, Nat.add_zero]
      have skipped : (pools.location callType earlier kind).laneRegister? lane = none := by
        cases found : pools.register? earlier kind with
        | some register =>
          rw [location_of_register pools callType found]
          simp [Location.laneRegister?, Location.kind, own]
        | none =>
          rw [location_of_none pools callType found]
          simp [Location.laneRegister?, Location.kind, own]
      rw [skipped]

end Pools

/-! ### Words of the built-in backends -/

/-- A built-in factory makes a backend only for words of 8 bytes, and its calls have such words. -/
theorem BackendFactory.wordSize_of_builtin {decoder : Decoder} {factory : BackendFactory}
    (mem : factory ∈ builtin decoder) {vm : VmConfig} {backend : Backend}
    (created : (factory.create vm).run.answer = .ok backend) :
    vm.wordSize = 8 ∧ backend.registers.target.wordSize = 8 := by
  obtain ⟨arch, own⟩ := exists_isFor_of_mem_builtin mem
  obtain ⟨target, -⟩ := RegisterConfig.ofTarget_eq_ok_iff.mp (own.of_backend created)
  obtain ⟨decoder, report, creates⟩ := own
  rw [creates, answer_createFor] at created
  split at created
  · rename_i same
    rw [target]
    exact ⟨same.trans arch.wordSize_architecture, arch.wordSize_architecture⟩
  · cases created

/-! ### Conventions by number -/

namespace Pools

variable (pools : Pools)

/-- The convention of a signature over words as wide as any kind: there is none exactly if a slot
would end beyond the last size. -/
theorem assign_of_wide (wide : 8 ≤ pools.wordSize) (callType : CallType) (returnKind : Kind)
    {parameters : List Kind} (passable : ∀ kind ∈ parameters, kind.lane.isSome) :
    (pools.excess parameters = 0 ∨
        pools.homeSpace + pools.wordSize * pools.excess parameters < Size.limit →
      ∃ convention, pools.assign callType returnKind parameters = .ok convention ∧
        convention.stackSize = pools.homeSpace + pools.wordSize * pools.excess parameters ∧
        ∀ lane, convention.laneRegisters lane =
          (pools.arguments lane).take (lane.count parameters)) ∧
    (¬ (pools.excess parameters = 0 ∨
        pools.homeSpace + pools.wordSize * pools.excess parameters < Size.limit) →
      pools.assign callType returnKind parameters = .error (.overflow .add)) := by
  have assigned := assign_eq pools callType returnKind passable
  rw [← hasRoom_of_wide pools wide passable]
  constructor
  · intro room
    rw [if_pos room] at assigned
    refine ⟨_, assigned, areaEnd_of_wide pools wide passable, fun lane => ?_⟩
    exact pools.laneRegisters_locations callType lane [] parameters
  · intro full
    rw [assigned, if_neg full]

/-- With words of at least 8 bytes, the argument area is the home space and a word for each
parameter that is too many in its lane, unless that would end beyond the last size: then there is no
convention. So the order of the parameters changes neither whether there is a convention, nor its
size, nor the registers that each lane hands out; and nothing but the home space is needed exactly
if both lanes fit. The built-in backends have words of 8 bytes. -/
theorem assign_counts_words (wide : 8 ≤ pools.wordSize) (callType : CallType) (returnKind : Kind)
    (parameters : List Kind) (passable : ∀ kind ∈ parameters, kind.lane.isSome) :
    let integers := Lane.integer.count parameters
    let floats := Lane.float.count parameters
    let fit := integers ≤ pools.general.length ∧ floats ≤ pools.float.length
    let size := pools.homeSpace +
      pools.wordSize * ((integers - pools.general.length) + (floats - pools.float.length))
    (fit ∨ size < Size.limit →
      ∃ convention, pools.assign callType returnKind parameters = .ok convention ∧
        convention.stackSize = size ∧ (convention.stackSize = pools.homeSpace ↔ fit) ∧
        ∀ lane, convention.laneRegisters lane =
          (pools.arguments lane).take (lane.count parameters)) ∧
    (¬ (fit ∨ size < Size.limit) →
      pools.assign callType returnKind parameters = .error (.overflow .add)) ∧
    (∀ others, parameters.Perm others →
      (∀ panic, pools.assign callType returnKind parameters = .error panic ↔
        pools.assign callType returnKind others = .error panic) ∧
      ∀ convention, pools.assign callType returnKind parameters = .ok convention →
        ∃ other, pools.assign callType returnKind others = .ok other ∧
          other.stackSize = convention.stackSize ∧
          ∀ lane, other.laneRegisters lane = convention.laneRegisters lane) ∧
    ∀ decoder, ∀ factory ∈ BackendFactory.builtin decoder, ∀ (vm : VmConfig) (backend : Backend),
      (factory.create vm).run.answer = .ok backend →
        vm.wordSize = 8 ∧ backend.registers.target.wordSize = 8 := by
  intro integers floats fit size
  have fit_iff : pools.excess parameters = 0 ↔ fit := pools.excess_eq_zero_iff parameters
  obtain ⟨made, refused⟩ := pools.assign_of_wide wide callType returnKind passable
  refine ⟨?_, ?_, ?_, ?_⟩
  · intro room
    rw [← fit_iff] at room
    obtain ⟨convention, assigned, total, registers⟩ := made room
    refine ⟨convention, assigned, total, ?_, registers⟩
    have word : pools.wordSize ≠ 0 := by omega
    rw [total, ← fit_iff, Nat.add_eq_left, Nat.mul_eq_zero, or_iff_right word]
  · rw [← fit_iff]
    exact refused
  · intro others order
    have passable' : ∀ kind ∈ others, kind.lane.isSome :=
      fun kind mem => passable kind (order.mem_iff.mpr mem)
    obtain ⟨made', refused'⟩ := pools.assign_of_wide wide callType returnKind passable'
    rw [← pools.excess_perm order] at made' refused'
    by_cases room : pools.excess parameters = 0 ∨
      pools.homeSpace + pools.wordSize * pools.excess parameters < Size.limit
    · obtain ⟨convention, assigned, total, registers⟩ := made room
      obtain ⟨other, assigned', total', registers'⟩ := made' room
      rw [assigned, assigned']
      refine ⟨fun panic => ⟨nofun, nofun⟩, ?_⟩
      rintro convention' found
      cases found
      refine ⟨other, rfl, total'.trans total.symm, fun lane => ?_⟩
      rw [registers, registers', Lane.count_perm lane order]
    · rw [refused room, refused' room]
      exact ⟨fun panic => Iff.rfl, nofun⟩
  · intro decoder factory mem vm backend created
    exact BackendFactory.wordSize_of_builtin mem created

/-- Three integers and a `double` over two integer registers and one for floats: one word behind the
home space, in either order. -/
theorem assign_counts_words_of_three_integers :
    let pools : Pools := ⟨[.general "g0" 0 0, .general "g1" 1 1], [.floating "f0" 2 0],
      .general "g0" 0 0, .floating "f0" 2 0, 8, 32⟩
    8 ≤ pools.wordSize ∧ (∀ kind ∈ [Kind.int, .double, .byte, .object], kind.lane.isSome) ∧
    [Kind.int, .double, .byte, .object].Perm [.object, .byte, .int, .double] ∧
    ∃ convention other,
      pools.assign .nativeCall .void [.int, .double, .byte, .object] = .ok convention ∧
      pools.assign .nativeCall .void [.object, .byte, .int, .double] = .ok other ∧
      convention.stackSize = 40 ∧ other.stackSize = 40 ∧
      other.laneRegisters .integer = convention.laneRegisters .integer := by
  intro pools
  have passable : ∀ kind ∈ [Kind.int, .double, .byte, .object], kind.lane.isSome := by decide
  have order : [Kind.int, .double, .byte, .object].Perm [.object, .byte, .int, .double] := by decide
  obtain ⟨made, -, permuted, -⟩ :=
    assign_counts_words pools (by decide) .nativeCall .void _ passable
  obtain ⟨convention, assigned, size, -⟩ := made (.inr (by decide))
  obtain ⟨-, alike⟩ := permuted _ order
  obtain ⟨other, assigned', size', registers⟩ := alike convention assigned
  exact ⟨by decide, passable, order, convention, other, assigned, assigned', size,
    size'.trans size, registers .integer⟩

/-- With a home space and words of `2 ^ 53` bytes, 1024 integers and 1023 floats that all spill
would end at `2 ^ 64`: there is no convention, and so none of that size. -/
theorem assign_words_past_last_size :
    let pools : Pools :=
      ⟨[], [], .general "ri" 100 0, .floating "rf" 101 1, 9007199254740992, 9007199254740992⟩
    let parameters := List.replicate 1024 Kind.long ++ List.replicate 1023 Kind.double
    8 ≤ pools.wordSize ∧ (∀ kind ∈ parameters, kind.lane.isSome) ∧
    ¬ ∃ convention, pools.assign .managedCall .int parameters = .ok convention ∧
      convention.stackSize = pools.homeSpace + pools.wordSize *
        ((Lane.integer.count parameters - pools.general.length) +
          (Lane.float.count parameters - pools.float.length)) := by
  intro pools parameters
  have passable : ∀ kind ∈ parameters, kind.lane.isSome := by
    intro kind mem
    rcases List.mem_append.mp mem with long | double
    · rw [List.eq_of_mem_replicate long]
      rfl
    · rw [List.eq_of_mem_replicate double]
      rfl
  have integers : Lane.integer.count parameters = 1024 := by
    rw [Lane.count, List.countP_append, List.countP_replicate, List.countP_replicate]
    rfl
  have floats : Lane.float.count parameters = 1023 := by
    rw [Lane.count, List.countP_append, List.countP_replicate, List.countP_replicate]
    rfl
  have excess : pools.excess parameters = 2047 := by rw [Pools.excess, integers, floats]; rfl
  refine ⟨by decide, passable, ?_⟩
  rintro ⟨convention, assigned, -⟩
  obtain ⟨-, refused⟩ := pools.assign_of_wide (by decide) .managedCall .int passable
  rw [excess] at refused
  rw [refused (by decide)] at assigned
  cases assigned

end Pools
end JitBridge
