import JitBridge.Proofs.Convention.Agreement
import Mathlib.Data.List.Rotate

/-!
One call in several conventions. The two sides of a managed call read the same description of it:
the callee's convention is the caller's, with the callee's frame to be added to every slot. Where
native calls have no home space, a managed call and a native call of one signature differ only in
the integer registers, which the managed call takes in an order rotated by one.

Both are facts about pools of the same shape. What a walk spills, and where, depends only on how
many registers each lane has (`Pools.SameShape.spilled_eq`), so such pools give the same argument
area, and `RegisterConfig.views_agree` compares the conventions location by location.
-/

namespace JitBridge

/-! ### Pools of the same shape -/

namespace Pools

/-- Pools that differ at most in which registers they hold. -/
structure SameShape (p q : Pools) : Prop where
  length : ∀ lane, (p.arguments lane).length = (q.arguments lane).length
  wordSize : p.wordSize = q.wordSize
  homeSpace : p.homeSpace = q.homeSpace

namespace SameShape

variable {p q : Pools} (shape : p.SameShape q)

include shape

/-- A parameter gets a register from both pools, or from none. -/
theorem register?_eq_none_iff (earlier : List Kind) (kind : Kind) :
    p.register? earlier kind = none ↔ q.register? earlier kind = none := by
  unfold register?
  cases kind.lane with
  | none => exact Iff.rfl
  | some lane =>
    rw [Option.bind_some, Option.bind_some, List.getElem?_eq_none_iff, List.getElem?_eq_none_iff,
      shape.length lane]

/-- The same parameters spill, whichever registers the others get. -/
theorem spilled_eq (earlier kinds : List Kind) :
    p.spilled earlier kinds = q.spilled earlier kinds := by
  induction kinds generalizing earlier with
  | nil => rfl
  | cons kind kinds ih =>
    have alike := shape.register?_eq_none_iff earlier kind
    cases found : p.register? earlier kind with
    | none =>
      rw [spilled_cons_of_none p found, spilled_cons_of_none q (alike.mp found), ih]
    | some register =>
      have taken : q.register? earlier kind ≠ none := by
        intro missing
        rw [alike.mpr missing] at found
        cases found
      obtain ⟨other, found'⟩ := Option.ne_none_iff_exists'.mp taken
      rw [spilled_cons_of_register p found, spilled_cons_of_register q found', ih]

theorem areaEnd_eq (kinds : List Kind) : p.areaEnd kinds = q.areaEnd kinds := by
  have size : p.slotSize = q.slotSize := by
    funext kind
    rw [slotSize, slotSize, shape.wordSize]
  rw [areaEnd, areaEnd, spilledSize, spilledSize, shape.spilled_eq, shape.homeSpace, size]

theorem hasRoom_iff (earlier kinds : List Kind) :
    p.HasRoom earlier kinds ↔ q.HasRoom earlier kinds := by
  rw [HasRoom, HasRoom, shape.spilled_eq, shape.areaEnd_eq]

/-- A parameter that spills from one pool spills from the other one, to the same slot. -/
theorem slot?_location_eq {callType other : CallType}
    (side : callType.isOutgoing = other.isOutgoing) (earlier : List Kind) (kind : Kind) :
    (p.location callType earlier kind).slot? = (q.location other earlier kind).slot? := by
  have alike := shape.register?_eq_none_iff earlier kind
  cases found : p.register? earlier kind with
  | none =>
    rw [location_of_none p callType found, location_of_none q other (alike.mp found),
      shape.areaEnd_eq, slotSize, slotSize, shape.wordSize, side]
  | some register =>
    cases found' : q.register? earlier kind with
    | none =>
      rw [alike.mpr found'] at found
      cases found
    | some register' =>
      rw [location_of_register p callType found, location_of_register q other found']
      rfl

/-- A parameter that gets the same from both pools is in the same place. -/
theorem location_eq {callType other : CallType} (side : callType.isOutgoing = other.isOutgoing)
    {earlier : List Kind} {kind : Kind}
    (same : p.register? earlier kind = q.register? earlier kind) :
    p.location callType earlier kind = q.location other earlier kind := by
  cases found : q.register? earlier kind with
  | some register =>
    rw [location_of_register p callType (same.trans found), location_of_register q other found]
  | none =>
    rw [location_of_none p callType (same.trans found), location_of_none q other found,
      shape.areaEnd_eq, slotSize, slotSize, shape.wordSize, side]

end SameShape

@[simp] theorem kind_location (pools : Pools) (callType : CallType) (earlier : List Kind)
    (kind : Kind) : (pools.location callType earlier kind).kind = kind.widened := by
  cases found : pools.register? earlier kind with
  | some register => rw [location_of_register pools callType found, Location.kind]
  | none => rw [location_of_none pools callType found, Location.kind]

end Pools

/-! ### The callee's side -/

/-- The location of an argument as the callee sees it: it has to add its own frame to reach a
slot. -/
def Location.seenByCallee : Location → Location
  | .register r kind => .register r kind
  | .stack slot => .stack { slot with addFrameSize := true }

/-- The callee's side of a convention. Results are never in a slot. -/
def CallingConvention.seenByCallee (convention : CallingConvention) : CallingConvention :=
  { convention with arguments := convention.arguments.map Location.seenByCallee }

namespace Pools

variable (pools : Pools)

theorem seenByCallee_location (earlier : List Kind) (kind : Kind) :
    (pools.location .managedCall earlier kind).seenByCallee =
      pools.location .managedCallee earlier kind := by
  cases found : pools.register? earlier kind with
  | some register =>
    rw [location_of_register pools _ found, location_of_register pools _ found]
    rfl
  | none =>
    rw [location_of_none pools _ found, location_of_none pools _ found]
    rfl

theorem seenByCallee_locations (earlier kinds : List Kind) :
    (pools.locations .managedCall earlier kinds).map Location.seenByCallee =
      pools.locations .managedCallee earlier kinds := by
  induction kinds generalizing earlier with
  | nil => rfl
  | cons kind kinds ih =>
    rw [locations, locations, List.map_cons, seenByCallee_location, ih]

/-- The callee's convention is the caller's as the callee sees it. -/
theorem seenByCallee_convention (returnKind : Kind) (parameters : List Kind) :
    (pools.convention .managedCall returnKind parameters).seenByCallee =
      pools.convention .managedCallee returnKind parameters := by
  rw [CallingConvention.seenByCallee, arguments_convention, seenByCallee_locations]
  rfl

/-- All slots of a convention are seen from its side. -/
theorem addFrameSize_of_mem_slots {callType : CallType} {returnKind : Kind}
    {parameters : List Kind} {slot : StackSlot}
    (mem : slot ∈ (pools.convention callType returnKind parameters).slots) :
    slot.addFrameSize = !callType.isOutgoing := by
  rw [CallingConvention.mem_slots_iff, arguments_convention] at mem
  obtain ⟨i, found⟩ := List.mem_iff_getElem?.mp mem
  rw [getElem?_locations, Option.map_eq_some_iff] at found
  obtain ⟨kind, -, located⟩ := found
  exact (of_location_eq_stack pools located).2.2

end Pools

/-! ### Rotated registers -/

/-- How a managed convention differs from a native one of the same signature: its integer arguments
take the native integer registers from the second one on, and the first one last. -/
structure CallingConvention.RotationOf (managed native : CallingConvention)
    (registers : List Register) (parameters : List Kind) : Prop where
  stackSize : managed.stackSize = native.stackSize
  result : managed.result = native.result
  length : managed.arguments.length = parameters.length ∧
    native.arguments.length = parameters.length
  argument : ∀ (i : Nat) kind, parameters[i]? = some kind → ∃ own other,
    managed.arguments[i]? = some own ∧ native.arguments[i]? = some other ∧
    own.kind = other.kind ∧ own.slot? = other.slot? ∧
    (own.register?.isSome ↔ other.register?.isSome) ∧
    (kind.lane = some .float → own = other) ∧
    (kind.lane = some .integer → ∀ register, own.register? = some register →
      registers[(Lane.integer.count (parameters.take i) + 1) % registers.length]? = some register ∧
      registers[Lane.integer.count (parameters.take i)]? = other.register?)

namespace Pools

/-- A managed and a native call over pools of one shape. -/
theorem SameShape.rotationOf {managed native : Pools} (shape : managed.SameShape native)
    (rotated : managed.general = native.general.rotate 1) (float : managed.float = native.float)
    (result : managed.result = native.result) (returnKind : Kind) (parameters : List Kind) :
    (managed.convention .managedCall returnKind parameters).RotationOf
      (native.convention .nativeCall returnKind parameters) native.general parameters := by
  constructor
  case stackSize => rw [stackSize_convention, stackSize_convention, shape.areaEnd_eq]
  case result => rw [result_convention, result_convention, result]
  case length => simp
  case argument =>
    intro i kind found
    have located : ∀ (pools : Pools) (callType : CallType),
        (pools.convention callType returnKind parameters).arguments[i]? =
          some (pools.location callType (parameters.take i) kind) := by
      intro pools callType
      rw [arguments_convention, getElem?_locations, found, Option.map_some, List.nil_append]
    refine ⟨_, _, located _ _, located _ _, by simp, shape.slot?_location_eq rfl _ _, ?_, ?_, ?_⟩
    · rw [register?_location, register?_location, Option.isSome_iff_ne_none,
        Option.isSome_iff_ne_none, Ne, Ne, shape.register?_eq_none_iff]
    · intro travels
      apply shape.location_eq rfl
      rw [register?_of_lane _ travels, register?_of_lane _ travels, arguments, arguments, float]
    · intro travels register drawn
      rw [register?_location, register?_of_lane _ travels, arguments, rotated] at drawn
      obtain ⟨within, -⟩ := List.getElem?_eq_some_iff.mp drawn
      rw [List.length_rotate] at within
      rw [List.getElem?_rotate within] at drawn
      refine ⟨drawn, ?_⟩
      rw [register?_location, register?_of_lane _ travels, arguments]

end Pools

namespace Abi

/-- Where native calls have no home space, managed calls take the native integer registers from the
second one on, and the first one last. -/
theorem managed_eq_rotate {arch : Arch} {windows : Bool}
    (unix : arch = .aarch64 ∨ windows = false) :
    (of arch windows).managed = (of arch windows).native.rotate 1 ∧
      (of arch windows).nativeHomeSpace = false := by
  rcases unix with rfl | rfl
  · cases windows <;> decide
  · cases arch <;> decide

variable (abi : Abi) (callType : CallType) (wordSize : Nat)

/-- The pools of a call without home space. -/
def directPools : Pools :=
  ⟨abi.general callType, abi.float, abi.integerReturn, abi.floatReturn, wordSize, 0⟩

theorem pools_eq_directPools (noHome : (callType.isNative && abi.nativeHomeSpace) = false) :
    abi.pools callType wordSize = .ok (abi.directPools callType wordSize) := by
  rw [pools, homeSpace, noHome]
  rfl

/-- Rotated registers make pools of one shape. -/
theorem sameShape_directPools (rotated : abi.managed = abi.native.rotate 1) :
    (abi.directPools .managedCall wordSize).SameShape (abi.directPools .nativeCall wordSize) := by
  refine ⟨fun lane => ?_, rfl, rfl⟩
  cases lane with
  | integer =>
    show abi.managed.length = abi.native.length
    rw [rotated, List.length_rotate]
  | float => rfl

end Abi

/-! ### Conventions of one configuration -/

namespace RegisterConfig

/-- The register configurations of a target: those that find the allocatable registers themselves,
and those that are given them. -/
def Configures (config : RegisterConfig) (target : Target) (vm : VmConfig) : Prop :=
  ofTarget target vm = .ok config ∨
    ∃ allocatable, ofAllocatable target vm allocatable = .ok config

variable {config : RegisterConfig} {target : Target} {vm : VmConfig}

theorem Configures.abi (made : config.Configures target vm) :
    config.abi = Abi.of target.arch.name vm.windows := by
  rcases made with found | ⟨allocatable, given⟩
  · exact (ofTarget_eq_ok_iff.mp found).2.1
  · simp only [ofAllocatable] at given
    split at given
    · cases given
    · cases given
      rfl

variable {returnKind : Kind} {parameters : List Kind}

/-- The convention of a call without home space: there is one unless the argument area ends beyond
the last size. -/
theorem callingConvention_direct (config : RegisterConfig) (callType : CallType) (returnKind : Kind)
    (passable : ∀ kind ∈ parameters, kind.lane.isSome)
    (noHome : (callType.isNative && config.abi.nativeHomeSpace) = false) :
    config.callingConvention callType returnKind parameters =
      if (config.abi.directPools callType config.target.wordSize).HasRoom [] parameters then
        .ok ((config.abi.directPools callType config.target.wordSize).convention callType returnKind
          parameters)
      else .error (.overflow .add) :=
  callingConvention_eq (config.abi.pools_eq_directPools callType _ noHome) passable

/-- The callee of a managed call sees the convention of the caller. -/
theorem callingConvention_callee (passable : ∀ kind ∈ parameters, kind.lane.isSome) :
    config.callingConvention .managedCallee returnKind parameters =
      (config.callingConvention .managedCall returnKind parameters).map
        CallingConvention.seenByCallee := by
  -- Both sides of a managed call draw from the same pools.
  have drawn : config.abi.directPools .managedCallee config.target.wordSize =
      config.abi.directPools .managedCall config.target.wordSize := rfl
  rw [callingConvention_direct config .managedCallee returnKind passable rfl,
    callingConvention_direct config .managedCall returnKind passable rfl, drawn,
    ← Pools.seenByCallee_convention]
  split
  · rfl
  · rfl

/-- Where native calls have no home space, a managed call gives up where the native call does, and
is a rotation of it elsewhere. -/
theorem callingConvention_native (made : config.Configures target vm)
    (unix : target.arch.name = .aarch64 ∨ vm.windows = false)
    (passable : ∀ kind ∈ parameters, kind.lane.isSome) :
    (∀ panic, config.callingConvention .managedCall returnKind parameters = .error panic ↔
      config.callingConvention .nativeCall returnKind parameters = .error panic) ∧
    ∀ managed, config.callingConvention .managedCall returnKind parameters = .ok managed →
      ∃ native, config.callingConvention .nativeCall returnKind parameters = .ok native ∧
        managed.RotationOf native config.abi.native parameters := by
  obtain ⟨rotated, noHome⟩ := Abi.managed_eq_rotate unix
  rw [← made.abi] at rotated noHome
  have shape := config.abi.sameShape_directPools config.target.wordSize rotated
  have alike := shape.hasRoom_iff [] parameters
  rw [callingConvention_direct config .managedCall returnKind passable rfl,
    callingConvention_direct config .nativeCall returnKind passable noHome]
  by_cases room : (config.abi.directPools .managedCall config.target.wordSize).HasRoom [] parameters
  · rw [if_pos room, if_pos (alike.mp room)]
    refine ⟨fun panic => ⟨nofun, nofun⟩, ?_⟩
    intro managed assigned
    cases assigned
    exact ⟨_, rfl, shape.rotationOf rotated rfl rfl returnKind parameters⟩
  · rw [if_neg room, if_neg fun fits => room (alike.mpr fits)]
    exact ⟨fun panic => Iff.rfl, nofun⟩

/-- The two sides of a managed call describe the same call: the callee's convention is the caller's,
whose slots need no frame, with the callee's frame added to every slot. On platforms whose native
calls have no home space, managed and native calls use the same slots and the same number of
registers, and differ only in that the integer registers are rotated by one. A call has a convention
unless its argument area ends beyond the last size, where all of them give up alike. -/
theorem views_agree (made : config.Configures target vm) (returnKind : Kind)
    (parameters : List Kind) (passable : ∀ kind ∈ parameters, kind.lane.isSome) :
    let caller := config.callingConvention .managedCall returnKind parameters
    let callee := config.callingConvention .managedCallee returnKind parameters
    let native := config.callingConvention .nativeCall returnKind parameters
    ((config.abi.directPools .managedCall config.target.wordSize).HasRoom [] parameters →
      ∃ convention, caller = .ok convention) ∧
    (¬ (config.abi.directPools .managedCall config.target.wordSize).HasRoom [] parameters →
      caller = .error (.overflow .add)) ∧
    callee = caller.map CallingConvention.seenByCallee ∧
    (∀ convention, caller = .ok convention →
      ∀ slot ∈ convention.slots, slot.addFrameSize = false) ∧
    (target.arch.name = .aarch64 ∨ vm.windows = false →
      (∀ panic, caller = .error panic ↔ native = .error panic) ∧
      ∀ convention, caller = .ok convention → ∃ other, native = .ok other ∧
        convention.RotationOf other config.abi.native parameters) := by
  intro caller callee native
  have assigned := config.callingConvention_direct .managedCall returnKind passable rfl
  refine ⟨fun room => ⟨_, assigned.trans (if_pos room)⟩, fun full => assigned.trans (if_neg full),
    callingConvention_callee passable, ?_,
    fun unix => callingConvention_native made unix passable⟩
  intro convention found slot mem
  obtain ⟨pools, -, rfl⟩ := of_callingConvention passable found
  exact pools.addFrameSize_of_mem_slots mem

/-- Nine integers on AArch64: `r0` is the eighth register of the managed call, and the first one of
the native call; the last integer is in the same slot on both sides. -/
theorem views_agree_of_nine_integers :
    let config : RegisterConfig := ⟨Arch.aarch64.target, .aarch64, [],
      (List.range 8).map AArch64.r ++ (List.range 8).map AArch64.v, 16384⟩
    let parameters := List.replicate 9 Kind.int
    config.Configures Arch.aarch64.target {} ∧ (∀ kind ∈ parameters, kind.lane.isSome) ∧
    ∃ caller native,
      config.callingConvention .managedCall .long parameters = .ok caller ∧
      config.callingConvention .managedCallee .long parameters = .ok caller.seenByCallee ∧
      config.callingConvention .nativeCall .long parameters = .ok native ∧
      caller.RotationOf native config.abi.native parameters ∧
      caller.arguments[7]? = some (.register (AArch64.r 0) .int) ∧
      native.arguments[0]? = some (.register (AArch64.r 0) .int) ∧
      caller.seenByCallee.arguments[8]? = some (.stack ⟨0, 8, .int, true⟩) := by
  intro config parameters
  have made : config.Configures Arch.aarch64.target {} := .inr ⟨[], by decide +kernel⟩
  have passable : ∀ kind ∈ parameters, kind.lane.isSome := by decide
  obtain ⟨fits, -, callee, -, direct⟩ := views_agree made .long parameters passable
  obtain ⟨caller, assigned⟩ := fits (by decide)
  obtain ⟨-, rotation⟩ := direct (.inl rfl)
  obtain ⟨native, assigned', rotated⟩ := rotation caller assigned
  rw [assigned] at callee
  refine ⟨made, passable, caller, native, assigned, callee, assigned', rotated, ?_⟩
  cases assigned
  cases assigned'
  decide

end RegisterConfig
end JitBridge
