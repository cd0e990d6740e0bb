import JitBridge.Proofs.Register.Numbers
import JitBridge.Register.Selection

/-!
What the two selections of registers leave, as sublists of the list they select from. Both go by
number: a register is among those a call may destroy if some pool has its number, and is lost to the
allocator if a reserved register has its number. The heap base alone is compared as a whole.
-/

namespace JitBridge

/-- Results that are the same wherever there is one are the same but for the error. -/
theorem toOption_congr {ε α : Type} {x y : Except ε α} (same : ∀ a, x = .ok a ↔ y = .ok a) :
    x.toOption = y.toOption := by
  cases x with
  | ok a => rw [(same a).mp rfl]
  | error e =>
    cases y with
    | ok a => cases (same a).mpr rfl
    | error e' => rfl

/-- The same numbers occur in two lists of registers. -/
def Register.SameNumbers (registers others : List Register) : Prop :=
  ∀ n, n ∈ registers.map (·.number.toNat) ↔ n ∈ others.map (·.number.toNat)

namespace Register.SameNumbers

variable {registers others more more' : List Register}

theorem of_mem_iff (same : ∀ r, r ∈ registers ↔ r ∈ others) : SameNumbers registers others :=
  fun n => by simp only [List.mem_map, same]

theorem append (same : SameNumbers registers others) (same' : SameNumbers more more') :
    SameNumbers (registers ++ more) (others ++ more') :=
  fun n => by
    rw [List.map_append, List.map_append, List.mem_append, List.mem_append, same n, same' n]

theorem forall_iff (same : SameNumbers registers others) (holds : Nat → Prop) :
    (∀ r ∈ registers, holds r.number.toNat) ↔ ∀ r ∈ others, holds r.number.toNat := by
  have numbers (list : List Register) : (∀ r ∈ list, holds r.number.toNat) ↔
      ∀ n ∈ list.map (·.number.toNat), holds n := List.forall_mem_map.symm
  rw [numbers, numbers]
  exact forall_congr' fun n => imp_congr_left (same n)

end Register.SameNumbers

namespace RegisterSet

theorem insertAll_append (s : RegisterSet) (first second : List Register) :
    s.insertAll (first ++ second) = s.insertAll first >>= fun t => t.insertAll second := by
  induction first generalizing s with
  | nil => rfl
  | cons r rest ih =>
    rw [List.cons_append, insertAll, insertAll]
    cases s.insert r with
    | error p => rfl
    | ok inserted => exact ih inserted.2

/-- Lists are added one after the other as one long list is. -/
theorem foldlM_insertAll (s : RegisterSet) (pools : List (List Register)) :
    pools.foldlM insertAll s = s.insertAll pools.flatten := by
  induction pools generalizing s with
  | nil => rfl
  | cons pool pools ih =>
    rw [List.foldlM_cons, List.flatten_cons, insertAll_append]
    exact congrArg _ (funext ih)

theorem exists_ofList {registers : List Register}
    (inside : ∀ r ∈ registers, r.number.toNat < bound) : ∃ s, ofList registers = .ok s := by
  have found : registers.find? (bound ≤ ·.number.toNat) = none := by
    rw [List.find?_eq_none]
    intro r mem
    rw [decide_eq_true_iff, Nat.not_le]
    exact inside r mem
  obtain ⟨s, made, -⟩ := exists_insertAll empty found
  exact ⟨s, made⟩

/-- A list that makes a set has no number that is too large, and the set has its numbers. -/
theorem of_ofList {registers : List Register} {s : RegisterSet} (made : ofList registers = .ok s) :
    (∀ r ∈ registers, r.number.toNat < bound) ∧
      s.numbers = (registers.map (·.number.toNat)).toFinset := by
  rw [ofList] at made
  cases found : registers.find? (bound ≤ ·.number.toNat) with
  | some r =>
    rw [insertAll_of_find empty found] at made
    cases made
  | none =>
    obtain ⟨t, made', numbers⟩ := exists_insertAll empty found
    have fresh : empty.numbers = ∅ := numbers_empty
    rw [made] at made'
    cases made'
    rw [numbers, fresh, Finset.empty_union]
    exact ⟨by simpa using found, rfl⟩

/-- A list makes a set unless it has a number that is too large; the panic names the first one. -/
theorem ofList_eq_error_iff {registers : List Register} {p : Panic} :
    ofList registers = .error p ↔
      ∃ r, registers.find? (bound ≤ ·.number.toNat) = some r ∧ p = .registerOutOfRange r := by
  rw [ofList]
  cases found : registers.find? (bound ≤ ·.number.toNat) with
  | some r => simp [insertAll_of_find empty found, eq_comm]
  | none =>
    obtain ⟨t, made, -⟩ := exists_insertAll empty found
    simp [made]

/-- There is a first number that is too large if there is one at all. -/
theorem exists_outOfRange_iff {registers : List Register} :
    (∃ p r, registers.find? (bound ≤ ·.number.toNat) = some r ∧ p = Panic.registerOutOfRange r) ↔
      ∃ r ∈ registers, bound ≤ r.number.toNat := by
  constructor
  · rintro ⟨p, r, found, -⟩
    exact ⟨r, List.mem_of_find?_eq_some found, by simpa using List.find?_some found⟩
  · rintro ⟨r, mem, outside⟩
    have found : (registers.find? (bound ≤ ·.number.toNat)).isSome = true :=
      List.find?_isSome.mpr ⟨r, mem, decide_eq_true outside⟩
    obtain ⟨first, found⟩ := Option.isSome_iff_exists.mp found
    exact ⟨_, first, found, rfl⟩

/-- A register is in the set of a list if the list has its number. -/
theorem contains_of_ofList {registers : List Register} {s : RegisterSet}
    (made : ofList registers = .ok s) (r : Register) :
    s.contains r = decide (r.number ∈ registers.map (·.number)) := by
  rw [contains_eq_decide, (of_ofList made).2, decide_eq_decide, List.mem_toFinset]
  simp only [List.mem_map, UInt16.toNat_inj]

end RegisterSet

namespace Register

/-- What a call may destroy is selected by the numbers of all pools together. -/
theorem callerSaved_eq (candidates : List Register) (pools : List (List Register)) :
    callerSaved candidates pools =
      (RegisterSet.ofList pools.flatten).map fun set => set.members candidates := by
  rw [callerSaved, RegisterSet.foldlM_insertAll, ← RegisterSet.ofList]
  cases RegisterSet.ofList pools.flatten <;> rfl

/-- The selection is made unless a pool has a number that is too large. -/
theorem callerSaved_eq_ok_iff {candidates result : List Register} {pools : List (List Register)} :
    callerSaved candidates pools = .ok result ↔
      (∀ pool ∈ pools, ∀ r ∈ pool, r.number.toNat < RegisterSet.bound) ∧
        result = candidates.filter fun r => ∃ pool ∈ pools, r.number ∈ pool.map (·.number) := by
  have inside : (∀ pool ∈ pools, ∀ r ∈ pool, r.number.toNat < RegisterSet.bound) ↔
      ∀ r ∈ pools.flatten, r.number.toNat < RegisterSet.bound := by
    simp only [List.mem_flatten]
    exact ⟨fun all r ⟨pool, mem, own⟩ => all pool mem r own,
      fun all pool mem r own => all r ⟨pool, mem, own⟩⟩
  have members {s : RegisterSet} (made : RegisterSet.ofList pools.flatten = .ok s) :
      s.members candidates =
        candidates.filter fun r => ∃ pool ∈ pools, r.number ∈ pool.map (·.number) := by
    refine List.filter_congr fun r _ => ?_
    rw [RegisterSet.contains_of_ofList made, decide_eq_decide, List.map_flatten, List.mem_flatten]
    simp
  rw [callerSaved_eq, inside]
  constructor
  · intro selected
    cases made : RegisterSet.ofList pools.flatten with
    | error p =>
      rw [made] at selected
      cases selected
    | ok s =>
      rw [made] at selected
      cases selected
      exact ⟨(RegisterSet.of_ofList made).1, members made⟩
  · rintro ⟨low, rfl⟩
    obtain ⟨s, made⟩ := RegisterSet.exists_ofList low
    rw [made, ← members made]
    rfl

theorem mem_callerSaved_iff {candidates result : List Register} {pools : List (List Register)}
    (selected : callerSaved candidates pools = .ok result) {r : Register} :
    r ∈ result ↔ r ∈ candidates ∧ ∃ pool ∈ pools, r.number ∈ pool.map (·.number) := by
  rw [(callerSaved_eq_ok_iff.mp selected).2, List.mem_filter, decide_eq_true_iff]

theorem expectedCount_eq_some_iff {registers reserved left : Nat} {heapBase : Bool} :
    expectedCount registers reserved heapBase = some left ↔
      left + (reserved + heapBase.toNat) = registers := by
  rw [expectedCount]
  split
  · rw [Option.some_inj]
    omega
  · simp only [reduceCtorEq, false_iff]
    omega

/-- The allocatable registers are what is left without the reserved ones and the heap base, if so
many are left. -/
theorem allocatable_eq_ok_iff {registers reserved result : List Register}
    {heapBase : Option Register} :
    allocatable registers reserved heapBase = .ok result ↔
      (∀ r ∈ reserved, r.number.toNat < RegisterSet.bound) ∧
        result = registers.filter (fun r =>
          r.number ∉ reserved.map (·.number) ∧ some r ≠ heapBase) ∧
        result.length + (reserved.length + heapBase.isSome.toNat) = registers.length := by
  have left {s : RegisterSet} (made : RegisterSet.ofList reserved = .ok s) :
      unreserved registers s heapBase = registers.filter (fun r =>
        r.number ∉ reserved.map (·.number) ∧ some r ≠ heapBase) := by
    rw [unreserved, List.filter_filter]
    refine List.filter_congr fun r _ => ?_
    rw [RegisterSet.contains_of_ofList made, Bool.eq_iff_iff]
    simp [and_comm]
  rw [allocatable]
  constructor
  · intro selected
    cases made : RegisterSet.ofList reserved with
    | error p =>
      rw [made] at selected
      cases selected
    | ok s =>
      rw [made] at selected
      simp only at selected
      split at selected
      · rename_i counted
        cases selected
        exact ⟨(RegisterSet.of_ofList made).1, left made, expectedCount_eq_some_iff.mp counted⟩
      · cases selected
  · rintro ⟨low, rfl, counted⟩
    obtain ⟨s, made⟩ := RegisterSet.exists_ofList low
    rw [made, ← left made]
    rw [← left made] at counted
    exact if_pos (expectedCount_eq_some_iff.mpr counted)

/-- Otherwise the state is illegal, if no reserved number is too large. -/
theorem exists_reason_of_allocatable {registers reserved : List Register}
    {heapBase : Option Register} {fault : Fault}
    (inside : ∀ r ∈ reserved, r.number.toNat < RegisterSet.bound)
    (failed : allocatable registers reserved heapBase = .error fault) :
    ∃ reason, fault = .error (.illegalState reason) := by
  obtain ⟨s, made⟩ := RegisterSet.exists_ofList inside
  rw [allocatable, made] at failed
  simp only at failed
  split at failed
  · cases failed
  · cases failed
    exact ⟨_, rfl⟩

theorem mem_allocatable_iff {registers reserved result : List Register} {heapBase : Option Register}
    (selected : allocatable registers reserved heapBase = .ok result) {r : Register} :
    r ∈ result ↔
      r ∈ registers ∧ r.number ∉ reserved.map (·.number) ∧ some r ≠ heapBase := by
  rw [(allocatable_eq_ok_iff.mp selected).2.1, List.mem_filter, decide_eq_true_iff]

end Register
end JitBridge
