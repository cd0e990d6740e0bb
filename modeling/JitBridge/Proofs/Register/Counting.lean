import JitBridge.Proofs.Register.Selection
import Mathlib.Data.List.Perm.Subperm

/-!
The count that guards the allocatable registers. The selection checks only how many registers are
left; over registers with distinct numbers that count is right exactly if everything that is to be
withheld is there, once, and the heap base is not reserved as well.

A list without duplicates loses at most one element for each one withheld, and loses that many only
if the withheld ones are distinct and all in the list (`length_filter_not_mem`). Reserved registers
are withheld by number and the heap base as a whole register, so the argument is made on numbers
where the heap base is one of the registers, and by the bound alone where it is none.
-/

namespace JitBridge

/-! ### Lists that lose elements -/

section

variable {α : Type} [DecidableEq α] {list : List α} (distinct : list.Nodup) (withheld : List α)

theorem length_filter_add_length_filter (list withheld : List α) :
    (list.filter (· ∉ withheld)).length + (list.filter (· ∈ withheld)).length = list.length := by
  have split := List.length_eq_length_filter_add (l := list) (· ∈ withheld)
  simp only [decide_not]
  omega

include distinct

/-- What is lost is among what is withheld, and is no more than it. -/
theorem subperm_filter_mem : (list.filter (· ∈ withheld)).Subperm withheld := by
  apply (distinct.filter _).subperm
  intro a mem
  exact of_decide_eq_true (List.mem_filter.mp mem).2

theorem length_le_filter_not_mem :
    list.length ≤ (list.filter (· ∉ withheld)).length + withheld.length := by
  have both := length_filter_add_length_filter list withheld
  have lost := (subperm_filter_mem distinct withheld).length_le
  omega

/-- As much is lost as is withheld if the withheld ones are distinct and all in the list. -/
theorem length_filter_not_mem :
    (list.filter (· ∉ withheld)).length + withheld.length = list.length ↔
      withheld.Nodup ∧ ∀ a ∈ withheld, a ∈ list := by
  have both := length_filter_add_length_filter list withheld
  have within := subperm_filter_mem distinct withheld
  constructor
  · intro counted
    have same : (list.filter (· ∈ withheld)).Perm withheld :=
      within.perm_of_length_le (by omega)
    refine ⟨same.nodup_iff.mp (distinct.filter _), ?_⟩
    intro a mem
    exact (List.mem_filter.mp (same.mem_iff.mpr mem)).1
  · rintro ⟨withheldDistinct, all⟩
    have covered : withheld.Subperm (list.filter (· ∈ withheld)) := by
      apply withheldDistinct.subperm
      intro a mem
      exact List.mem_filter.mpr ⟨all a mem, decide_eq_true mem⟩
    have atMost := within.length_le
    have atLeast := covered.length_le
    omega

end

namespace Register

/-! ### Registers that are lost by number -/

section

variable {registers : List Register} (distinct : (registers.map (·.number)).Nodup)

theorem length_filter_number (registers : List Register) (numbers : List UInt16) :
    (registers.filter (·.number ∉ numbers)).length =
      ((registers.map (·.number)).filter (· ∉ numbers)).length := by
  rw [List.filter_map, List.length_map]
  rfl

include distinct

/-- Registers with distinct numbers are told apart by their numbers. -/
theorem eq_of_mem_of_number {r s : Register} (rMem : r ∈ registers) (sMem : s ∈ registers)
    (same : r.number = s.number) : r = s :=
  List.inj_on_of_nodup_map distinct rMem sMem same

/-- What is left without the reserved numbers and a heap base that is one of the registers. -/
theorem filter_heapBase {base : Register} (mem : base ∈ registers) (reserved : List UInt16) :
    registers.filter (fun r => r.number ∉ reserved ∧ some r ≠ some base) =
      registers.filter (·.number ∉ base.number :: reserved) := by
  apply List.filter_congr
  intro r own
  have base_iff : r.number = base.number ↔ r = base :=
    ⟨eq_of_mem_of_number distinct own mem, fun same => congrArg _ same⟩
  rw [decide_eq_decide, List.mem_cons, not_or, base_iff, and_comm]
  simp

/-- The count is right exactly if the reserved numbers are distinct and all there, and the heap base
is a register that is not reserved. -/
theorem length_left_iff (reserved : List UInt16) (heapBase : Option Register) :
    (registers.filter fun r => r.number ∉ reserved ∧ some r ≠ heapBase).length +
        (reserved.length + heapBase.isSome.toNat) = registers.length ↔
      reserved.Nodup ∧ (∀ n ∈ reserved, n ∈ registers.map (·.number)) ∧
        ∀ base, heapBase = some base → base ∈ registers ∧ base.number ∉ reserved := by
  have counted : ∀ numbers : List UInt16,
      (registers.filter (·.number ∉ numbers)).length + numbers.length = registers.length ↔
        numbers.Nodup ∧ ∀ n ∈ numbers, n ∈ registers.map (·.number) := by
    intro numbers
    rw [← length_filter_not_mem distinct, length_filter_number, List.length_map]
  cases heapBase with
  | none =>
    have left : registers.filter (fun r => r.number ∉ reserved ∧ some r ≠ none) =
        registers.filter (·.number ∉ reserved) := by simp
    rw [left, Option.isSome_none, Bool.toNat_false, Nat.add_zero, counted]
    simp
  | some base =>
    simp only [Option.isSome_some, Bool.toNat_true, Option.some.injEq, forall_eq']
    by_cases mem : base ∈ registers
    · have own : base.number ∈ registers.map (·.number) := List.mem_map_of_mem mem
      rw [filter_heapBase distinct mem, ← List.length_cons, counted, List.nodup_cons,
        List.forall_mem_cons]
      constructor
      · rintro ⟨⟨unreserved, once⟩, -, all⟩
        exact ⟨once, all, mem, unreserved⟩
      · rintro ⟨once, all, -, unreserved⟩
        exact ⟨⟨unreserved, once⟩, own, all⟩
    · -- A heap base that is no register takes nothing away, and so one register too many is left.
      have left : registers.filter (fun r => r.number ∉ reserved ∧ some r ≠ some base) =
          registers.filter (·.number ∉ reserved) := by
        apply List.filter_congr
        intro r own
        have other : r ≠ base := fun same => mem (same ▸ own)
        simp [other]
      have most := length_le_filter_not_mem distinct reserved
      rw [← length_filter_number, List.length_map] at most
      rw [left]
      constructor
      · intro total
        omega
      · rintro ⟨-, -, found, -⟩
        exact absurd found mem

end

/-! ### The allocatable registers -/

/-- Whenever the allocatable registers are found, they are the registers without the reserved
numbers and the heap base, and as many as the count asks for. Over registers with distinct numbers
they are found exactly if the reserved numbers are distinct and all there, and the heap base is one
of the registers and not reserved. In every other case the state is illegal, also where more
registers are withheld than there are. -/
theorem allocatable_iff_withheld (registers reserved : List Register) (heapBase : Option Register)
    (inside : ∀ r ∈ reserved, r.number.toNat < 128) :
    (∀ result, allocatable registers reserved heapBase = .ok result →
      result = registers.filter (fun r =>
        r.number ∉ reserved.map (·.number) ∧ some r ≠ heapBase) ∧
      reserved.length + heapBase.isSome.toNat ≤ registers.length ∧
      result.length = registers.length - reserved.length - heapBase.isSome.toNat) ∧
    ((registers.map (·.number)).Nodup →
      ((∃ result, allocatable registers reserved heapBase = .ok result) ↔
        (reserved.map (·.number)).Nodup ∧
        (∀ n ∈ reserved.map (·.number), n ∈ registers.map (·.number)) ∧
        ∀ base, heapBase = some base →
          base ∈ registers ∧ base.number ∉ reserved.map (·.number))) ∧
    ((¬ ∃ result, allocatable registers reserved heapBase = .ok result) ↔
      ∃ reason, allocatable registers reserved heapBase = .error (.error (.illegalState reason))) ∧
    (registers.length < reserved.length + heapBase.isSome.toNat →
      ∃ reason,
        allocatable registers reserved heapBase = .error (.error (.illegalState reason))) := by
  have refused : (¬ ∃ result, allocatable registers reserved heapBase = .ok result) →
      ∃ reason,
        allocatable registers reserved heapBase = .error (.error (.illegalState reason)) := by
    intro missing
    cases selected : allocatable registers reserved heapBase with
    | ok result => exact absurd ⟨result, selected⟩ missing
    | error fault =>
      obtain ⟨reason, rfl⟩ := exists_reason_of_allocatable inside selected
      exact ⟨reason, rfl⟩
  refine ⟨?_, ?_, ⟨refused, ?_⟩, ?_⟩
  · intro result selected
    obtain ⟨-, same, counted⟩ := allocatable_eq_ok_iff.mp selected
    exact ⟨same, by omega, by omega⟩
  · intro distinct
    rw [← length_left_iff distinct, List.length_map]
    constructor
    · rintro ⟨result, selected⟩
      obtain ⟨-, rfl, counted⟩ := allocatable_eq_ok_iff.mp selected
      exact counted
    · intro counted
      exact ⟨_, allocatable_eq_ok_iff.mpr ⟨inside, rfl, counted⟩⟩
  · rintro ⟨reason, failed⟩ ⟨result, selected⟩
    rw [failed] at selected
    cases selected
  · intro many
    apply refused
    rintro ⟨result, selected⟩
    obtain ⟨-, -, counted⟩ := allocatable_eq_ok_iff.mp selected
    omega

/-- One reserved register and a heap base are withheld from three registers. The heap base has to be
the very register: one of the same number and another name is none of them. -/
theorem allocatable_iff_withheld_of_renamed_base :
    let registers := [general "a" 0 0, general "b" 1 1, general "c" 2 2]
    (∀ r ∈ [general "stack" 1 7], r.number.toNat < 128) ∧ (registers.map (·.number)).Nodup ∧
      (∃ result, allocatable registers [general "stack" 1 7] (some (general "c" 2 2)) =
        .ok result) ∧
      ∃ reason, allocatable registers [general "stack" 1 7] (some (general "base" 2 2)) =
        .error (.error (.illegalState reason)) := by
  intro registers
  have inside : ∀ r ∈ [general "stack" 1 7], r.number.toNat < 128 := by decide
  have distinct : (registers.map (·.number)).Nodup := by decide
  obtain ⟨-, found, -⟩ :=
    allocatable_iff_withheld registers [general "stack" 1 7] (some (general "c" 2 2)) inside
  obtain ⟨-, found', refused, -⟩ :=
    allocatable_iff_withheld registers [general "stack" 1 7] (some (general "base" 2 2)) inside
  refine ⟨inside, distinct, (found distinct).mpr ⟨by decide, ?_, ?_⟩, refused.mp ?_⟩
  · simp [registers, general]
  · rintro base same
    cases same
    simp [registers, general]
  · rw [found' distinct]
    rintro ⟨-, -, base⟩
    have mem := (base _ rfl).1
    simp [registers, general] at mem

end Register
end JitBridge
