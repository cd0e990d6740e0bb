import JitBridge.Convention.Assigner
import Mathlib.Algebra.Ring.Nat

/-!
Where a convention puts its parameters, in closed form. `Pools.register?` names the register of a
parameter from its kind and the kinds before it: only the earlier parameters of its own lane count.
The parameters without a register spill, and their slots follow each other from the home space on;
`Pools.areaEnd` is where the last one ends.

`Assigner.arguments_after` says that the assigner's walk finds the locations of the closed form, and
gives up exactly where a slot would end beyond the last size. From it follow the convention of a
signature (`Pools.assign_eq`), and that every location is decided in the parameter's own lane.
-/

namespace JitBridge

/-- How many of these kinds travel in a lane. -/
def Lane.count (lane : Lane) (kinds : List Kind) : Nat :=
  kinds.countP fun kind => kind.lane = some lane

theorem Lane.count_append_singleton (lane : Lane) (kinds : List Kind) (kind : Kind) :
    lane.count (kinds ++ [kind]) = lane.count kinds + if kind.lane = some lane then 1 else 0 := by
  simp [Lane.count, List.countP_append, List.countP_cons]

theorem Lane.count_cons (lane : Lane) (kind : Kind) (kinds : List Kind) :
    lane.count (kind :: kinds) = lane.count kinds + if kind.lane = some lane then 1 else 0 := by
  simp [Lane.count, List.countP_cons]

namespace Pools

/-- The register of a parameter that comes after the parameters of kinds `earlier`: the next one of
its lane's pool. -/
def register? (pools : Pools) (earlier : List Kind) (kind : Kind) : Option Register :=
  kind.lane.bind fun lane => (pools.arguments lane)[lane.count earlier]?

/-- The parameters among `kinds` that get no register, as they sit in their slots. -/
def spilled (pools : Pools) : (earlier kinds : List Kind) → List Kind
  | _, [] => []
  | earlier, kind :: kinds =>
    match pools.register? earlier kind with
    | some _ => pools.spilled (earlier ++ [kind]) kinds
    | none => kind.widened :: pools.spilled (earlier ++ [kind]) kinds

/-- The bytes that the slots of the spilled parameters take. -/
def spilledSize (pools : Pools) (earlier kinds : List Kind) : Nat :=
  ((pools.spilled earlier kinds).map pools.slotSize).sum

/-- Where the argument area of these parameters ends. -/
def areaEnd (pools : Pools) (kinds : List Kind) : Nat :=
  pools.homeSpace + pools.spilledSize [] kinds

/-- Every slot of the parameters `kinds` after `earlier` ends at a size. -/
def HasRoom (pools : Pools) (earlier kinds : List Kind) : Prop :=
  pools.spilled earlier kinds = [] ∨ pools.areaEnd (earlier ++ kinds) < Size.limit

instance (pools : Pools) (earlier kinds : List Kind) : Decidable (pools.HasRoom earlier kinds) :=
  inferInstanceAs (Decidable (_ ∨ _))

/-- The location of a parameter that comes after the parameters of kinds `earlier`. -/
def location (pools : Pools) (callType : CallType) (earlier : List Kind) (kind : Kind) : Location :=
  match pools.register? earlier kind with
  | some register => .register register kind.widened
  | none => .stack {
      offset := pools.areaEnd earlier
      size := pools.slotSize kind.widened
      kind := kind.widened
      addFrameSize := !callType.isOutgoing }

/-- The locations of the parameters `kinds` after `earlier`. -/
def locations (pools : Pools) (callType : CallType) : (earlier kinds : List Kind) → List Location
  | _, [] => []
  | earlier, kind :: kinds =>
    pools.location callType earlier kind :: pools.locations callType (earlier ++ [kind]) kinds

variable (pools : Pools)

/-! ### The closed form, parameter by parameter -/

theorem register?_of_lane {kind : Kind} {lane : Lane} (travels : kind.lane = some lane)
    (earlier : List Kind) :
    pools.register? earlier kind = (pools.arguments lane)[lane.count earlier]? := by
  rw [register?, travels, Option.bind_some]

theorem spilled_cons_of_register {earlier : List Kind} {kind : Kind} {register : Register}
    (found : pools.register? earlier kind = some register) (kinds : List Kind) :
    pools.spilled earlier (kind :: kinds) = pools.spilled (earlier ++ [kind]) kinds := by
  rw [spilled, found]

theorem spilled_cons_of_none {earlier : List Kind} {kind : Kind}
    (missing : pools.register? earlier kind = none) (kinds : List Kind) :
    pools.spilled earlier (kind :: kinds) =
      kind.widened :: pools.spilled (earlier ++ [kind]) kinds := by
  rw [spilled, missing]

theorem spilled_append (earlier first second : List Kind) :
    pools.spilled earlier (first ++ second) =
      pools.spilled earlier first ++ pools.spilled (earlier ++ first) second := by
  induction first generalizing earlier with
  | nil => simp [spilled]
  | cons kind kinds ih =>
    rw [List.cons_append]
    cases found : pools.register? earlier kind with
    | some register =>
      rw [spilled_cons_of_register pools found, spilled_cons_of_register pools found, ih,
        List.append_assoc, List.singleton_append]
    | none =>
      rw [spilled_cons_of_none pools found, spilled_cons_of_none pools found, ih,
        List.append_assoc, List.singleton_append, List.cons_append]

/-- Of the parameters of a lane, those spill that come after the lane's last register. -/
theorem count_spilled (lane : Lane) (earlier kinds : List Kind) :
    lane.count (pools.spilled earlier kinds) =
      lane.count (earlier ++ kinds) - (pools.arguments lane).length -
        (lane.count earlier - (pools.arguments lane).length) := by
  induction kinds generalizing earlier with
  | nil => simp [spilled, Lane.count]
  | cons kind kinds ih =>
    have ih := ih (earlier ++ [kind])
    have grown := lane.count_append_singleton earlier kind
    have whole : lane.count (earlier ++ [kind]) ≤ lane.count (earlier ++ kind :: kinds) := by
      simp [Lane.count, List.countP_append, List.countP_cons]
    rw [List.append_assoc, List.singleton_append] at ih
    cases found : pools.register? earlier kind with
    | some register =>
      rw [spilled_cons_of_register pools found, ih]
      by_cases own : kind.lane = some lane
      · rw [register?_of_lane pools own] at found
        obtain ⟨within, -⟩ := List.getElem?_eq_some_iff.mp found
        rw [if_pos own] at grown
        omega
      · rw [if_neg own] at grown
        omega
    | none =>
      rw [spilled_cons_of_none pools found, lane.count_cons, Kind.lane_widened, ih]
      by_cases own : kind.lane = some lane
      · rw [register?_of_lane pools own, List.getElem?_eq_none_iff] at found
        rw [if_pos own] at grown ⊢
        omega
      · rw [if_neg own] at grown ⊢
        omega

@[simp] theorem areaEnd_nil : pools.areaEnd [] = pools.homeSpace := rfl

/-- The area grows by the slots of the parameters that spill. -/
theorem areaEnd_append (earlier kinds : List Kind) :
    pools.areaEnd (earlier ++ kinds) = pools.areaEnd earlier + pools.spilledSize earlier kinds := by
  simp only [areaEnd, spilledSize, spilled_append, List.nil_append, List.map_append,
    List.sum_append]
  omega

theorem areaEnd_of_register {earlier : List Kind} {kind : Kind} {register : Register}
    (found : pools.register? earlier kind = some register) :
    pools.areaEnd (earlier ++ [kind]) = pools.areaEnd earlier := by
  rw [areaEnd_append, spilledSize, spilled_cons_of_register pools found]
  simp [spilled]

theorem areaEnd_of_none {earlier : List Kind} {kind : Kind}
    (missing : pools.register? earlier kind = none) :
    pools.areaEnd (earlier ++ [kind]) = pools.areaEnd earlier + pools.slotSize kind.widened := by
  rw [areaEnd_append, spilledSize, spilled_cons_of_none pools missing]
  simp [spilled]

theorem location_of_register (callType : CallType) {earlier : List Kind} {kind : Kind}
    {register : Register} (found : pools.register? earlier kind = some register) :
    pools.location callType earlier kind = .register register kind.widened := by
  rw [location, found]

theorem location_of_none (callType : CallType) {earlier : List Kind} {kind : Kind}
    (missing : pools.register? earlier kind = none) :
    pools.location callType earlier kind = .stack
      ⟨pools.areaEnd earlier, pools.slotSize kind.widened, kind.widened, !callType.isOutgoing⟩ := by
  rw [location, missing]

@[simp] theorem length_locations (callType : CallType) (earlier kinds : List Kind) :
    (pools.locations callType earlier kinds).length = kinds.length := by
  induction kinds generalizing earlier with
  | nil => rfl
  | cons kind kinds ih => simp [locations, ih]

/-- One location for each parameter, each by the kinds in front of it. -/
theorem getElem?_locations (callType : CallType) (earlier kinds : List Kind) (i : Nat) :
    (pools.locations callType earlier kinds)[i]? =
      kinds[i]?.map (pools.location callType (earlier ++ kinds.take i)) := by
  induction kinds generalizing earlier i with
  | nil => simp [locations]
  | cons kind kinds ih =>
    cases i with
    | zero => simp [locations]
    | succ i => simp [locations, ih]

/-- A parameter that gets a register leaves the room as it is. -/
theorem hasRoom_cons_of_register {earlier : List Kind} {kind : Kind} {register : Register}
    (found : pools.register? earlier kind = some register) (kinds : List Kind) :
    pools.HasRoom earlier (kind :: kinds) ↔ pools.HasRoom (earlier ++ [kind]) kinds := by
  rw [HasRoom, HasRoom, spilled_cons_of_register pools found, List.append_assoc,
    List.singleton_append]

/-- A parameter that spills needs room for its own slot too. -/
theorem hasRoom_cons_of_none {earlier : List Kind} {kind : Kind}
    (missing : pools.register? earlier kind = none) (kinds : List Kind) :
    pools.HasRoom earlier (kind :: kinds) ↔
      pools.areaEnd (earlier ++ [kind]) < Size.limit ∧ pools.HasRoom (earlier ++ [kind]) kinds := by
  have split : earlier ++ kind :: kinds = (earlier ++ [kind]) ++ kinds := by simp
  have grown := pools.areaEnd_append (earlier ++ [kind]) kinds
  rw [HasRoom, HasRoom, spilled_cons_of_none pools missing, split]
  constructor
  · rintro (none | fits)
    · cases none
    · exact ⟨by omega, .inr fits⟩
  · rintro ⟨fits, none | fits'⟩
    · rw [spilledSize, none] at grown
      exact .inr (by simp only [List.map_nil, List.sum_nil] at grown; omega)
    · exact .inr fits'

end Pools

/-! ### The assigner follows the closed form -/

namespace Assigner

@[simp] theorem pools_advance (a : Assigner) (lane : Lane) : (a.advance lane).pools = a.pools := by
  cases lane <;> rfl

@[simp] theorem callType_advance (a : Assigner) (lane : Lane) :
    (a.advance lane).callType = a.callType := by
  cases lane <;> rfl

@[simp] theorem stack_advance (a : Assigner) (lane : Lane) : (a.advance lane).stack = a.stack := by
  cases lane <;> rfl

theorem used_advance (a : Assigner) (lane other : Lane) :
    (a.advance lane).used other = if other = lane then a.used other + 1 else a.used other := by
  cases lane <;> cases other <;> rfl

/-- Assigners with the same cursors are the same. -/
theorem eq_of_used {a b : Assigner} (pools : a.pools = b.pools) (callType : a.callType = b.callType)
    (used : ∀ lane, a.used lane = b.used lane) (stack : a.stack = b.stack) : a = b := by
  have general : a.generalUsed = b.generalUsed := used .integer
  have float : a.floatUsed = b.floatUsed := used .float
  cases a
  cases b
  rw [mk.injEq]
  exact ⟨pools, callType, general, float, stack⟩

variable (pools : Pools) (callType : CallType)

/-- How far the assigner has come after parameters of these kinds. -/
def after (earlier : List Kind) : Assigner where
  pools := pools
  callType := callType
  generalUsed := min (Lane.integer.count earlier) pools.general.length
  floatUsed := min (Lane.float.count earlier) pools.float.length
  stack := pools.areaEnd earlier

theorem after_nil : after pools callType [] = start pools callType := by
  simp [after, start, Lane.count, Pools.areaEnd, Pools.spilledSize, Pools.spilled]

theorem used_after (earlier : List Kind) (lane : Lane) :
    (after pools callType earlier).used lane =
      min (lane.count earlier) (pools.arguments lane).length := by
  cases lane <;> rfl

/-- The cursor of a lane stands on the register that the next parameter of the lane takes. -/
theorem next_after {kind : Kind} {lane : Lane} (travels : kind.lane = some lane)
    (earlier : List Kind) :
    (pools.arguments lane)[(after pools callType earlier).used lane]? =
      pools.register? earlier kind := by
  rw [used_after, Pools.register?_of_lane pools travels]
  rcases Nat.le_total (lane.count earlier) (pools.arguments lane).length with within | beyond
  · rw [Nat.min_eq_left within]
  · rw [Nat.min_eq_right beyond, List.getElem?_eq_none (Nat.le_refl _),
      List.getElem?_eq_none beyond]

/-- After a parameter that took a register, its lane's cursor stands one further. -/
theorem advance_after {kind : Kind} {lane : Lane} (travels : kind.lane = some lane)
    {earlier : List Kind} {register : Register}
    (found : pools.register? earlier kind = some register) :
    (after pools callType earlier).advance lane = after pools callType (earlier ++ [kind]) := by
  have same := pools.areaEnd_of_register found
  rw [Pools.register?_of_lane pools travels] at found
  obtain ⟨within, -⟩ := List.getElem?_eq_some_iff.mp found
  apply eq_of_used
  · rw [pools_advance, after, after]
  · rw [callType_advance, after, after]
  · intro other
    rw [used_advance, used_after, used_after, Lane.count_append_singleton, travels]
    by_cases own : other = lane
    · subst own
      rw [if_pos rfl, if_pos rfl]
      omega
    · rw [if_neg own, if_neg fun found => own (Option.some.inj found).symm, Nat.add_zero]
  · rw [stack_advance, after, after, same]

/-- A parameter that spills moves no cursor. -/
theorem spill_after {kind : Kind} {lane : Lane} (travels : kind.lane = some lane)
    {earlier : List Kind} (missing : pools.register? earlier kind = none) :
    { after pools callType earlier with stack := pools.areaEnd (earlier ++ [kind]) } =
      after pools callType (earlier ++ [kind]) := by
  rw [Pools.register?_of_lane pools travels, List.getElem?_eq_none_iff] at missing
  apply eq_of_used
  · rfl
  · rfl
  · intro other
    rw [used_after, Lane.count_append_singleton, travels]
    show (after pools callType earlier).used other = _
    rw [used_after]
    by_cases own : other = lane
    · subst own
      rw [if_pos rfl]
      omega
    · rw [if_neg fun found => own (Option.some.inj found).symm, Nat.add_zero]
  · rfl

/-- A parameter that finds a register in its pool gets it. -/
theorem argument_after_of_register {kind : Kind} {lane : Lane} (travels : kind.lane = some lane)
    {earlier : List Kind} {register : Register}
    (found : pools.register? earlier kind = some register) :
    (after pools callType earlier).argument kind =
      .ok (pools.location callType earlier kind, after pools callType (earlier ++ [kind])) := by
  have next := next_after pools callType travels earlier
  rw [found] at next
  have drawn : ((after pools callType earlier).pools.arguments lane)[
      (after pools callType earlier).used lane]? = some register := next
  rw [Pools.location_of_register pools callType found,
    ← advance_after pools callType travels found]
  simp only [argument, Kind.lane_widened, travels, drawn]

/-- A parameter that finds its pool empty gets a slot, if the slot ends at a size. -/
theorem argument_after_of_none {kind : Kind} {lane : Lane} (travels : kind.lane = some lane)
    {earlier : List Kind} (missing : pools.register? earlier kind = none) :
    (after pools callType earlier).argument kind =
      if pools.areaEnd (earlier ++ [kind]) < Size.limit then
        .ok (pools.location callType earlier kind, after pools callType (earlier ++ [kind]))
      else .error (.overflow .add) := by
  have next := next_after pools callType travels earlier
  rw [missing] at next
  have drawn : ((after pools callType earlier).pools.arguments lane)[
      (after pools callType earlier).used lane]? = none := next
  have summed : Size.add (after pools callType earlier).stack
      ((after pools callType earlier).nextSlot kind.widened).size =
      Size.checked .add (pools.areaEnd (earlier ++ [kind])) := by
    rw [Pools.areaEnd_of_none pools missing]
    rfl
  simp only [argument, Kind.lane_widened, travels, drawn, summed, Size.checked]
  by_cases fits : pools.areaEnd (earlier ++ [kind]) < Size.limit
  · rw [if_pos fits, if_pos fits]
    simp only [spill_after pools callType travels missing,
      Pools.location_of_none pools callType missing]
    rfl
  · rw [if_neg fits, if_neg fits]

/-- The walk over parameters with a lane: the locations of the closed form, or an overflow where a
slot ends beyond the last size. -/
theorem arguments_after {kinds : List Kind} (passable : ∀ kind ∈ kinds, kind.lane.isSome)
    (earlier : List Kind) :
    (after pools callType earlier).arguments kinds =
      if pools.HasRoom earlier kinds then
        .ok (pools.locations callType earlier kinds, after pools callType (earlier ++ kinds))
      else .error (.overflow .add) := by
  induction kinds generalizing earlier with
  | nil => simp [arguments, Pools.locations, Pools.HasRoom, Pools.spilled]
  | cons kind kinds ih =>
    obtain ⟨lane, travels⟩ := Option.isSome_iff_exists.mp (passable kind List.mem_cons_self)
    have ih := ih (fun kind later => passable kind (List.mem_cons_of_mem _ later))
      (earlier ++ [kind])
    rw [List.append_assoc, List.singleton_append] at ih
    simp only [arguments, Pools.locations]
    cases found : pools.register? earlier kind with
    | some register =>
      simp only [argument_after_of_register pools callType travels found, ih,
        Pools.hasRoom_cons_of_register pools found]
      by_cases room : pools.HasRoom (earlier ++ [kind]) kinds
      · simp only [if_pos room]
      · simp only [if_neg room]
    | none =>
      simp only [argument_after_of_none pools callType travels found,
        Pools.hasRoom_cons_of_none pools found]
      by_cases fits : pools.areaEnd (earlier ++ [kind]) < Size.limit
      · by_cases room : pools.HasRoom (earlier ++ [kind]) kinds
        · simp only [if_pos fits, ih, if_pos room, if_pos (And.intro fits room)]
        · simp only [if_pos fits, ih, if_neg room, if_neg fun both => room (And.right both)]
      · simp only [if_neg fits, if_neg fun both => fits (And.left both)]

end Assigner

/-! ### The convention of a signature -/

namespace Pools

variable (pools : Pools)

/-- The convention of a signature whose parameters have a lane, in closed form. -/
theorem assign_eq (callType : CallType) (returnKind : Kind) {parameters : List Kind}
    (passable : ∀ kind ∈ parameters, kind.lane.isSome) :
    pools.assign callType returnKind parameters =
      if pools.HasRoom [] parameters then
        .ok {
          stackSize := pools.areaEnd parameters
          result := returnKind.lane.map fun lane => .register (pools.result lane) returnKind.widened
          arguments := pools.locations callType [] parameters }
      else .error (.overflow .add) := by
  have walk := Assigner.arguments_after pools callType passable []
  rw [Assigner.after_nil, List.nil_append] at walk
  rw [assign, walk]
  by_cases room : pools.HasRoom [] parameters
  · simp only [if_pos room, Assigner.result, Kind.lane_widened, Assigner.after]
  · simp only [if_neg room]

/-- Without registers every parameter spills. -/
theorem spilled_of_no_registers (general : pools.general = []) (float : pools.float = [])
    (earlier kinds : List Kind) : pools.spilled earlier kinds = kinds.map Kind.widened := by
  induction kinds generalizing earlier with
  | nil => rfl
  | cons kind kinds ih =>
    have missing : pools.register? earlier kind = none := by
      rw [register?, Option.bind_eq_none_iff]
      intro lane _
      cases lane with
      | integer => simp [arguments, general]
      | float => simp [arguments, float]
    rw [spilled_cons_of_none pools missing, ih, List.map_cons]

/-- Every parameter has one location, decided in its own lane: if `k` parameters of the lane come
before it, it has the lane's register `k`, or a slot if the pool has no such register. This holds
whenever the slots end at sizes; otherwise the assignment overflows. -/
theorem assign_lane_by_lane (callType : CallType) (returnKind : Kind) (parameters : List Kind)
    (passable : ∀ kind ∈ parameters, kind ≠ .void ∧ kind ≠ .illegal) :
    (pools.HasRoom [] parameters → ∃ convention,
      pools.assign callType returnKind parameters = .ok convention ∧
      convention.arguments.length = parameters.length ∧
      (∀ i kind, parameters[i]? = some kind → ∃ lane, kind.lane = some lane ∧
        (∀ inside : lane.count (parameters.take i) < (pools.arguments lane).length,
          convention.arguments[i]? = some
            (.register (pools.arguments lane)[lane.count (parameters.take i)] kind.widened)) ∧
        ((pools.arguments lane).length ≤ lane.count (parameters.take i) →
          ∃ slot, convention.arguments[i]? = some (.stack slot) ∧ slot.kind = kind.widened)) ∧
      convention.result =
        returnKind.lane.map (fun lane => .register (pools.result lane) returnKind.widened) ∧
      (convention.result = none ↔ returnKind = .void ∨ returnKind = .illegal)) ∧
    (¬ pools.HasRoom [] parameters →
      pools.assign callType returnKind parameters = .error (.overflow .add)) := by
  have lanes : ∀ kind ∈ parameters, kind.lane.isSome := by
    intro kind mem
    rw [Kind.lane_isSome_iff]
    exact passable kind mem
  have assigned := assign_eq pools callType returnKind lanes
  refine ⟨fun room => ?_, fun full => by rw [assigned, if_neg full]⟩
  rw [if_pos room] at assigned
  refine ⟨_, assigned, length_locations pools callType [] parameters, ?_, rfl, ?_⟩
  · intro i kind found
    obtain ⟨lane, travels⟩ :=
      Option.isSome_iff_exists.mp (lanes kind (List.mem_of_getElem? found))
    have register := register?_of_lane pools travels (parameters.take i)
    have located := getElem?_locations pools callType [] parameters i
    rw [found, List.nil_append, Option.map_some] at located
    refine ⟨lane, travels, fun inside => ?_, fun outside => ?_⟩
    · rw [List.getElem?_eq_getElem inside] at register
      rw [located, location_of_register pools callType register]
    · rw [List.getElem?_eq_none outside] at register
      rw [located, location_of_none pools callType register]
      exact ⟨_, rfl, rfl⟩
  · cases returnKind <;> simp [Kind.lane]

/-- A `float` still gets its register after a `long` has spilled. -/
theorem assign_float_after_spill :
    (∀ kind ∈ [Kind.int, .long, .float], kind ≠ .void ∧ kind ≠ .illegal) ∧
    ∃ convention,
      assign
        ⟨[.general "g0" 0 0], [.floating "f0" 1 0], .general "g0" 0 0, .floating "f0" 1 0, 8, 0⟩
        .managedCall .int [.int, .long, .float] = .ok convention ∧
      convention.arguments[2]? = some (.register (.floating "f0" 1 0) .float) := by
  refine ⟨by decide, ?_⟩
  obtain ⟨convention, assigned, -, located, -⟩ := (assign_lane_by_lane
    ⟨[.general "g0" 0 0], [.floating "f0" 1 0], .general "g0" 0 0, .floating "f0" 1 0, 8, 0⟩
    .managedCall .int [.int, .long, .float] (by decide)).1 (by decide)
  obtain ⟨lane, travels, drawn, -⟩ := located 2 .float rfl
  cases travels
  exact ⟨convention, assigned, drawn (by decide)⟩

/-- With a home space and words of `2 ^ 53` bytes, the slot of the 2047th parameter would end at
`2 ^ 64`: the parameters have lanes, and yet there is no convention. -/
theorem assign_past_last_size :
    (∀ kind ∈ List.replicate 2047 Kind.int, kind ≠ .void ∧ kind ≠ .illegal) ∧
    ¬ ∃ convention,
      assign ⟨[], [], .general "ri" 100 0, .floating "rf" 101 1, 9007199254740992, 9007199254740992⟩
        .managedCall .int (List.replicate 2047 .int) = .ok convention := by
  have ints : ∀ kind ∈ List.replicate 2047 Kind.int, kind = .int :=
    fun kind mem => List.eq_of_mem_replicate mem
  refine ⟨fun kind mem => by simp [ints kind mem], ?_⟩
  rintro ⟨convention, assigned⟩
  rw [assign_eq _ _ _ fun kind mem => by rw [ints kind mem]; rfl, if_neg] at assigned
  · cases assigned
  · rw [HasRoom, List.nil_append, areaEnd, spilledSize, spilled_of_no_registers _ rfl rfl,
      List.map_replicate, List.map_replicate, List.sum_replicate_nat]
    simp [Kind.widened, slotSize, Kind.size, Size.limit]

end Pools
end JitBridge
