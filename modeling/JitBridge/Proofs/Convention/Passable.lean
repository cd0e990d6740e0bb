import JitBridge.Proofs.Convention.Views
import JitBridge.Proofs.Signature.Grammar
import Mathlib.Data.List.TakeWhile

/-!
Calls of kinds that cannot be passed. The assigner's walk stops at the first parameter without lane,
unless the argument area has grown beyond the last size before.
-/

namespace JitBridge

namespace Kind

theorem widened_of_no_lane {kind : Kind} (missing : kind.lane = none) : kind.widened = kind := by
  rcases lane_eq_none_iff.mp missing with rfl | rfl
  · rfl
  · rfl

/-- The parameters in front of the first one without lane. -/
def passable (kinds : List Kind) : List Kind := kinds.takeWhile (·.lane.isSome)

theorem passable_of_all {kinds : List Kind} (all : ∀ kind ∈ kinds, kind.lane.isSome) :
    passable kinds = kinds :=
  List.takeWhile_eq_self_iff.mpr all

theorem passable_append {before after : List Kind} {kind : Kind}
    (lanes : ∀ earlier ∈ before, earlier.lane.isSome) (missing : kind.lane = none) :
    passable (before ++ kind :: after) = before := by
  rw [passable, List.takeWhile_append_of_pos lanes, List.takeWhile_cons_of_neg (by simp [missing]),
    List.append_nil]

end Kind

/-! ### The walk over any parameters -/

namespace Assigner

/-- A walk over two lists goes on from where the first one left it. -/
theorem arguments_append (a : Assigner) (first second : List Kind) :
    a.arguments (first ++ second) =
      match a.arguments first with
      | .error p => .error p
      | .ok (locations, a) =>
        match a.arguments second with
        | .error p => .error p
        | .ok (more, a) => .ok (locations ++ more, a) := by
  induction first generalizing a with
  | nil =>
    simp only [List.nil_append, arguments]
    cases a.arguments second with
    | error p => rfl
    | ok result => rfl
  | cons kind kinds ih =>
    simp only [List.cons_append, arguments]
    cases a.argument kind with
    | error p => rfl
    | ok assigned =>
      simp only [ih]
      cases assigned.2.arguments kinds with
      | error p => rfl
      | ok result =>
        simp only
        cases result.2.arguments second with
        | error p => rfl
        | ok more => rfl

theorem argument_of_no_lane (a : Assigner) {kind : Kind} (missing : kind.lane = none) :
    a.argument kind = .error (.noLane kind) := by
  simp only [argument, Kind.widened_of_no_lane missing, missing]

end Assigner

namespace Pools

variable (pools : Pools)

/-- The first parameter without lane stops the walk, unless the argument area of those before it
ends beyond the last size. -/
theorem assign_of_no_lane (callType : CallType) (returnKind : Kind) {before after : List Kind}
    {kind : Kind} (lanes : ∀ earlier ∈ before, earlier.lane.isSome) (missing : kind.lane = none) :
    pools.assign callType returnKind (before ++ kind :: after) =
      .error (if pools.HasRoom [] before then .noLane kind else .overflow .add) := by
  have walk := Assigner.arguments_after pools callType lanes []
  rw [Assigner.after_nil, List.nil_append] at walk
  rw [assign, Assigner.arguments_append, walk]
  by_cases room : pools.HasRoom [] before
  · simp only [if_pos room, Assigner.arguments, Assigner.argument_of_no_lane _ missing]
  · simp only [if_neg room]

end Pools

/-- Pools fail to be made exactly where there is a home space that is no size. -/
theorem Abi.pools_eq_error_iff {abi : Abi} {callType : CallType} {wordSize : Nat} {panic : Panic} :
    abi.pools callType wordSize = .error panic ↔
      panic = .overflow .multiply ∧ (callType.isNative && abi.nativeHomeSpace) = true ∧
        Size.limit ≤ (abi.general callType).length * wordSize := by
  unfold pools homeSpace
  split
  · rename_i home
    unfold Size.multiply Size.checked
    split
    · rename_i fits
      constructor
      · exact nofun
      · rintro ⟨-, -, large⟩
        exact absurd fits (Nat.not_lt.mpr large)
    · rename_i large
      constructor
      · intro failed
        cases failed
        exact ⟨rfl, home, Nat.not_lt.mp large⟩
      · rintro ⟨rfl, -, -⟩
        rfl
  · rename_i direct
    constructor
    · exact nofun
    · rintro ⟨-, home, -⟩
      exact absurd home direct

namespace RegisterConfig

variable {config : RegisterConfig} {callType : CallType} {returnKind : Kind}
  {parameters : List Kind}

/-- A call stops at the first parameter without lane. -/
theorem callingConvention_of_no_lane {pools : Pools}
    (drawn : config.abi.pools callType config.target.wordSize = .ok pools)
    {before after : List Kind} {kind : Kind} (lanes : ∀ earlier ∈ before, earlier.lane.isSome)
    (missing : kind.lane = none) :
    config.callingConvention callType returnKind (before ++ kind :: after) =
      .error (if pools.HasRoom [] before then .noLane kind else .overflow .add) := by
  unfold callingConvention
  rw [drawn]
  exact pools.assign_of_no_lane callType returnKind lanes missing

theorem callingConvention_of_pools_error {panic : Panic}
    (failed : config.abi.pools callType config.target.wordSize = .error panic) :
    config.callingConvention callType returnKind parameters = .error panic := by
  unfold callingConvention
  rw [failed]

/-- A call of kinds that can be passed never misses a lane. -/
theorem callingConvention_ne_noLane (passable : ∀ kind ∈ parameters, kind.lane.isSome)
    (kind : Kind) :
    config.callingConvention callType returnKind parameters ≠ .error (.noLane kind) := by
  intro stopped
  cases drawn : config.abi.pools callType config.target.wordSize with
  | error panic =>
    rw [callingConvention_of_pools_error drawn, (Abi.pools_eq_error_iff.mp drawn).1] at stopped
    cases stopped
  | ok pools =>
    rw [callingConvention_eq drawn passable] at stopped
    split at stopped
    · cases stopped
    · cases stopped

variable {pools : Pools} (drawn : config.abi.pools callType config.target.wordSize = .ok pools)

include drawn

/-- As long as the parameters before the first one without lane fit, a call stops for want of a lane
exactly if one of its parameters has none. The result does not matter. -/
theorem exists_noLane_iff (room : pools.HasRoom [] (Kind.passable parameters)) :
    (∃ kind, config.callingConvention callType returnKind parameters = .error (.noLane kind)) ↔
      ∃ kind ∈ parameters, kind = .void ∨ kind = .illegal := by
  by_cases lanes : ∀ kind ∈ parameters, kind.lane.isSome
  · rw [Kind.passable_of_all lanes] at room
    rw [callingConvention_eq drawn lanes, if_pos room]
    constructor
    · rintro ⟨kind, stopped⟩
      cases stopped
    · rintro ⟨kind, mem, outside⟩
      have lane := lanes kind mem
      rw [Kind.lane_eq_none_iff.mpr outside] at lane
      cases lane
  · obtain ⟨before, kind, after, rfl, lanes, missing⟩ := Kind.exists_first_without_lane lanes
    rw [Kind.passable_append lanes missing] at room
    rw [callingConvention_of_no_lane drawn lanes missing, if_pos room]
    refine iff_of_true ⟨kind, rfl⟩ ⟨kind, ?_, Kind.lane_eq_none_iff.mp missing⟩
    exact List.mem_append_right _ List.mem_cons_self

/-- If those parameters do not fit, the argument area runs over before a lane is missed. -/
theorem callingConvention_of_full (full : ¬ pools.HasRoom [] (Kind.passable parameters)) :
    config.callingConvention callType returnKind parameters = .error (.overflow .add) := by
  by_cases lanes : ∀ kind ∈ parameters, kind.lane.isSome
  · rw [Kind.passable_of_all lanes] at full
    rw [callingConvention_eq drawn lanes, if_neg full]
  · obtain ⟨before, kind, after, rfl, lanes, missing⟩ := Kind.exists_first_without_lane lanes
    rw [Kind.passable_append lanes missing] at full
    rw [callingConvention_of_no_lane drawn lanes missing, if_neg full]

end RegisterConfig
end JitBridge
