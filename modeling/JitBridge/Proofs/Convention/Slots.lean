import JitBridge.Proofs.Convention.Lanes
import JitBridge.RegisterConfig

/-!
The argument area of a convention. Its slots follow each other without a gap, from the home space to
the end of the area, so no two of them share a byte. With a power of two as word size, every slot
starts at a multiple of the word size if the home space does; the home space of a register
configuration always does. Which parameters have a slot is decided in their lanes (`Pools.Spills`).
`Pools.tiles_locations` says all this of the closed form, from where it carries over to the
convention that is assigned.
-/

namespace JitBridge

namespace StackSlot

/-- The slots follow each other without a gap from `start` to `stop`. -/
def Tiles : (start : Nat) → List StackSlot → (stop : Nat) → Prop
  | start, [], stop => start = stop
  | start, slot :: slots, stop => slot.offset = start ∧ Tiles (start + slot.size) slots stop

/-- Slots that tile an area lie behind its start. -/
theorem le_offset_of_tiles {start stop : Nat} {slots : List StackSlot}
    (tiles : Tiles start slots stop) : ∀ slot ∈ slots, start ≤ slot.offset := by
  induction slots generalizing start with
  | nil => simp
  | cons first slots ih =>
    obtain ⟨begins, tiles⟩ := tiles
    intro slot mem
    rcases List.mem_cons.mp mem with rfl | mem
    · exact Nat.le_of_eq begins.symm
    · exact Nat.le_trans (Nat.le_add_right _ _) (ih tiles slot mem)

/-- Slots that tile an area are disjoint: each one ends before the later ones start. -/
theorem pairwise_of_tiles {start stop : Nat} {slots : List StackSlot}
    (tiles : Tiles start slots stop) :
    slots.Pairwise fun slot later => slot.offset + slot.size ≤ later.offset := by
  induction slots generalizing start with
  | nil => exact .nil
  | cons first slots ih =>
    obtain ⟨begins, tiles⟩ := tiles
    refine .cons (fun later mem => ?_) (ih tiles)
    rw [begins]
    exact le_offset_of_tiles tiles later mem

/-- If an aligned area is tiled by slots of aligned sizes, all of them start and end aligned. -/
theorem dvd_of_tiles {word start stop : Nat} {slots : List StackSlot}
    (tiles : Tiles start slots stop) (aligned : word ∣ start)
    (sizes : ∀ slot ∈ slots, word ∣ slot.size) :
    (∀ slot ∈ slots, word ∣ slot.offset) ∧ word ∣ stop := by
  induction slots generalizing start with
  | nil =>
    have same : start = stop := tiles
    exact ⟨by simp, same ▸ aligned⟩
  | cons first slots ih =>
    obtain ⟨begins, tiles⟩ := tiles
    obtain ⟨offsets, ends⟩ := ih tiles
      (Nat.dvd_add aligned (sizes first List.mem_cons_self))
      fun slot mem => sizes slot (List.mem_cons_of_mem _ mem)
    refine ⟨fun slot mem => ?_, ends⟩
    rcases List.mem_cons.mp mem with rfl | mem
    · exact begins ▸ aligned
    · exact offsets slot mem

end StackSlot

/-- The stack slots among the arguments, in order. -/
def CallingConvention.slots (convention : CallingConvention) : List StackSlot :=
  convention.arguments.filterMap Location.slot?

theorem CallingConvention.mem_slots_iff {convention : CallingConvention} {slot : StackSlot} :
    slot ∈ convention.slots ↔ .stack slot ∈ convention.arguments := by
  rw [slots, List.mem_filterMap]
  constructor
  · rintro ⟨location, mem, found⟩
    cases location with
    | register register kind => cases found
    | stack own =>
      cases found
      exact mem
  · exact fun mem => ⟨_, mem, rfl⟩

/-! ### The slots of the closed form -/

namespace Pools

variable (pools : Pools)

theorem tiles_locations (callType : CallType) (earlier kinds : List Kind) :
    StackSlot.Tiles (pools.areaEnd earlier)
      ((pools.locations callType earlier kinds).filterMap Location.slot?)
      (pools.areaEnd (earlier ++ kinds)) := by
  induction kinds generalizing earlier with
  | nil => simp [locations, StackSlot.Tiles]
  | cons kind kinds ih =>
    have ih := ih (earlier ++ [kind])
    rw [List.append_assoc, List.singleton_append] at ih
    cases found : pools.register? earlier kind with
    | some register =>
      rw [areaEnd_of_register pools found] at ih
      rw [locations, location_of_register pools callType found]
      exact ih
    | none =>
      rw [areaEnd_of_none pools found] at ih
      rw [locations, location_of_none pools callType found]
      exact ⟨rfl, ih⟩

theorem of_location_eq_stack {callType : CallType} {earlier : List Kind} {kind : Kind}
    {slot : StackSlot} (located : pools.location callType earlier kind = .stack slot) :
    slot.kind = kind.widened ∧ slot.size = pools.slotSize kind.widened ∧
      slot.addFrameSize = !callType.isOutgoing := by
  cases found : pools.register? earlier kind with
  | some register =>
    rw [location_of_register pools callType found] at located
    cases located
  | none =>
    rw [location_of_none pools callType found] at located
    cases located
    exact ⟨rfl, rfl, rfl⟩

/-- A parameter spills if the parameters of its lane in front of it use up the lane's pool. -/
def Spills (parameters : List Kind) (i : Nat) : Prop :=
  ∃ kind lane, parameters[i]? = some kind ∧ kind.lane = some lane ∧
    (pools.arguments lane).length ≤ lane.count (parameters.take i)

/-- The parameters that spill are those that have a slot. -/
theorem exists_slot_iff_spills (callType : CallType) {parameters : List Kind}
    (passable : ∀ kind ∈ parameters, kind.lane.isSome) (i : Nat) :
    (∃ slot, (pools.locations callType [] parameters)[i]? = some (.stack slot)) ↔
      pools.Spills parameters i := by
  rw [getElem?_locations, List.nil_append]
  cases found : parameters[i]? with
  | none => simp [Spills, found]
  | some kind =>
    obtain ⟨lane, travels⟩ :=
      Option.isSome_iff_exists.mp (passable kind (List.mem_of_getElem? found))
    have register := register?_of_lane pools travels (parameters.take i)
    have spills : pools.Spills parameters i ↔ pools.register? (parameters.take i) kind = none := by
      simp [Spills, found, travels, register]
    rw [spills, Option.map_some]
    cases taken : pools.register? (parameters.take i) kind with
    | some register => simp [location_of_register pools callType taken]
    | none => simp [location_of_none pools callType taken]

/-- A slot is a whole number of words if the word size is a power of two. -/
theorem dvd_slotSize (power : pools.wordSize.isPowerOfTwo) {kind : Kind}
    (passable : kind.lane.isSome) : pools.wordSize ∣ pools.slotSize kind.widened := by
  obtain ⟨n, word⟩ := power
  have natural : ∃ m, kind.widened.size = 2 ^ m := by
    cases kind with
    | long | double | object => exact ⟨3, rfl⟩
    | void | illegal => cases passable
    | _ => exact ⟨2, rfl⟩
  obtain ⟨m, size⟩ := natural
  rw [slotSize, word, size]
  rcases Nat.le_total n m with le | ge
  · rw [Nat.max_eq_left (Nat.pow_le_pow_right (by decide) le)]
    exact Nat.pow_dvd_pow 2 le
  · have word_wide := Nat.max_eq_right (Nat.pow_le_pow_right (by decide : 0 < 2) ge)
    exact ⟨1, by rw [word_wide, Nat.mul_one]⟩

end Pools

namespace Abi

variable (abi : Abi) (callType : CallType) {wordSize : Nat}

/-- A home space holds a word for each integer parameter register, or nothing. -/
theorem of_homeSpace {homeSpace : Nat} (made : abi.homeSpace callType wordSize = .ok homeSpace) :
    homeSpace = (abi.general callType).length * wordSize ∨ homeSpace = 0 := by
  rw [Abi.homeSpace] at made
  split at made
  · obtain ⟨rfl, -⟩ := Size.multiply_eq_ok_iff.mp made
    exact .inl rfl
  · cases made
    exact .inr rfl

/-- The pools of a call are the registers of the interface behind its home space. -/
theorem of_pools {pools : Pools} (made : abi.pools callType wordSize = .ok pools) :
    ∃ homeSpace, abi.homeSpace callType wordSize = .ok homeSpace ∧
      pools = ⟨abi.general callType, abi.float, abi.integerReturn, abi.floatReturn, wordSize,
        homeSpace⟩ := by
  rw [Abi.pools] at made
  cases space : abi.homeSpace callType wordSize with
  | error p =>
    rw [space] at made
    cases made
  | ok homeSpace =>
    rw [space] at made
    cases made
    exact ⟨homeSpace, rfl, rfl⟩

theorem dvd_of_pools {pools : Pools} (made : abi.pools callType wordSize = .ok pools) :
    pools.wordSize = wordSize ∧ pools.wordSize ∣ pools.homeSpace := by
  obtain ⟨homeSpace, space, rfl⟩ := abi.of_pools callType made
  refine ⟨rfl, ?_⟩
  rcases abi.of_homeSpace callType space with rfl | rfl
  · exact Nat.dvd_mul_left _ _
  · exact Nat.dvd_zero _

theorem exists_pools (fits : (abi.general callType).length * wordSize < Size.limit) :
    ∃ pools, abi.pools callType wordSize = .ok pools := by
  rw [Abi.pools, Abi.homeSpace]
  split
  · rw [Size.multiply_eq_ok_iff.mpr ⟨rfl, fits⟩]
    exact ⟨_, rfl⟩
  · exact ⟨_, rfl⟩

end Abi

/-! ### The argument area of a convention -/

namespace Pools

variable (pools : Pools)

/-- Every parameter has one location, which is a slot exactly if the parameter spills. The slots of
a convention tile its argument area from the home space to the end. They are disjoint, as wide as
their values and a word at least, and the callee's view alone adds its frame to them. If the word
size is a power of two and the home space is a whole number of words, every slot starts at a whole
number of words; the home space of a register configuration always is one. -/
theorem assign_tiles_area (callType : CallType) (returnKind : Kind) (parameters : List Kind)
    (passable : ∀ kind ∈ parameters, kind.lane.isSome)
    (fits : pools.areaEnd parameters < Size.limit) :
    (∃ convention, pools.assign callType returnKind parameters = .ok convention ∧
      convention.arguments.length = parameters.length ∧
      (∀ i, (∃ slot, convention.arguments[i]? = some (.stack slot)) ↔ pools.Spills parameters i) ∧
      StackSlot.Tiles pools.homeSpace convention.slots convention.stackSize ∧
      ((∀ i, ¬pools.Spills parameters i) →
        convention.slots = [] ∧ convention.stackSize = pools.homeSpace) ∧
      (convention.slots.Pairwise fun slot later => slot.offset + slot.size ≤ later.offset) ∧
      (∀ slot ∈ convention.slots, pools.homeSpace ≤ slot.offset) ∧
      (∀ (i : Nat) (slot : StackSlot), convention.arguments[i]? = some (.stack slot) → ∃ kind,
        parameters[i]? = some kind ∧ slot.kind = kind.widened ∧
        slot.size = max kind.widened.size pools.wordSize ∧
        (slot.addFrameSize = true ↔ callType = .managedCallee)) ∧
      (pools.wordSize.isPowerOfTwo → pools.wordSize ∣ pools.homeSpace →
        (∀ slot ∈ convention.slots, pools.wordSize ∣ slot.offset) ∧
        pools.wordSize ∣ convention.stackSize)) ∧
    (∀ config : RegisterConfig,
      (∀ made, config.abi.pools callType config.target.wordSize = .ok made →
        made.wordSize = config.target.wordSize ∧ made.wordSize ∣ made.homeSpace) ∧
      ((config.abi.general callType).length * config.target.wordSize < Size.limit →
        ∃ made, config.abi.pools callType config.target.wordSize = .ok made)) := by
  refine ⟨?_, fun config => ⟨fun made => config.abi.dvd_of_pools callType,
    config.abi.exists_pools callType⟩⟩
  have assigned := assign_eq pools callType returnKind passable
  rw [if_pos (.inr fits)] at assigned
  have tiles := tiles_locations pools callType [] parameters
  rw [areaEnd_nil, List.nil_append] at tiles
  have located : ∀ (i : Nat) (slot : StackSlot),
      (pools.locations callType [] parameters)[i]? = some (.stack slot) →
      ∃ kind, parameters[i]? = some kind ∧ slot.kind = kind.widened ∧
        slot.size = pools.slotSize kind.widened ∧ slot.addFrameSize = !callType.isOutgoing := by
    intro i slot found
    rw [getElem?_locations, Option.map_eq_some_iff] at found
    obtain ⟨kind, mem, found⟩ := found
    exact ⟨kind, mem, of_location_eq_stack pools found⟩
  have spills := pools.exists_slot_iff_spills callType passable
  refine ⟨_, assigned, length_locations pools callType [] parameters, spills, tiles,
    fun none => ?_, StackSlot.pairwise_of_tiles tiles, StackSlot.le_offset_of_tiles tiles,
    fun i slot found => ?_, fun power whole => ?_⟩
  · have empty : (pools.locations callType [] parameters).filterMap Location.slot? = [] := by
      rw [List.filterMap_eq_nil_iff]
      intro location mem
      cases location with
      | register register kind => rfl
      | stack slot =>
        obtain ⟨i, found⟩ := List.mem_iff_getElem?.mp mem
        exact absurd ((spills i).mp ⟨slot, found⟩) (none i)
    refine ⟨empty, ?_⟩
    rw [empty] at tiles
    exact Eq.symm tiles
  · obtain ⟨kind, mem, widened, size, side⟩ := located i slot found
    refine ⟨kind, mem, widened, size, ?_⟩
    rw [side]
    cases callType <;> simp [CallType.isOutgoing]
  · refine StackSlot.dvd_of_tiles tiles whole fun slot mem => ?_
    obtain ⟨i, found⟩ := List.mem_iff_getElem?.mp (CallingConvention.mem_slots_iff.mp mem)
    obtain ⟨kind, mem, -, size, -⟩ := located i slot found
    rw [size]
    exact dvd_slotSize pools power (passable kind (List.mem_of_getElem? mem))

/-- One register, a home space of 32 bytes, and slots for a `double` and a widened `byte`. -/
theorem assign_tiles_area_behind_home :
    let pools : Pools := ⟨[.general "g0" 0 0], [], .general "g0" 0 0, .floating "f0" 1 0, 8, 32⟩
    let parameters : List Kind := [.int, .double, .byte]
    (∀ kind ∈ parameters, kind.lane.isSome) ∧ pools.areaEnd parameters < Size.limit ∧
    ∃ convention, pools.assign .nativeCall .void parameters = .ok convention ∧
      convention.slots = [⟨32, 8, .double, false⟩, ⟨40, 8, .int, false⟩] ∧
      ¬pools.Spills parameters 0 ∧ pools.Spills parameters 1 ∧ pools.Spills parameters 2 ∧
      StackSlot.Tiles 32 convention.slots 48 ∧ 8 ∣ convention.stackSize := by
  intro pools parameters
  refine ⟨by decide, by decide, ?_⟩
  obtain ⟨⟨convention, assigned, -, spills, tiles, -, -, -, -, aligned⟩, -⟩ :=
    pools.assign_tiles_area .nativeCall .void parameters (by decide) (by decide)
  have located : pools.assign .nativeCall .void parameters = .ok ⟨48, none, [
      .register (.general "g0" 0 0) .int, .stack ⟨32, 8, .double, false⟩,
      .stack ⟨40, 8, .int, false⟩]⟩ := by decide
  obtain rfl := Except.ok.inj (assigned.symm.trans located)
  refine ⟨_, assigned, rfl, ?_, ?_, ?_, tiles, (aligned ⟨3, rfl⟩ ⟨4, rfl⟩).2⟩
  · rw [← spills]
    simp
  · exact (spills 1).mp ⟨_, rfl⟩
  · exact (spills 2).mp ⟨_, rfl⟩

end Pools
end JitBridge
