import JitBridge.Proofs.Register.Selection

/-!
What a call may destroy, as a function of the numbers that the pools mention. How the numbers are
spread over the pools does not count: `Register.Regroups` relates pools that are reordered, split,
merged or repeated, as wholes or in their members, and they select the same registers
(`Register.toOption_callerSaved_congr`). `Register.callerSaved_by_number` is the whole account, with
the panic of a number that no set can hold, and with the pools that are added later.
-/

namespace JitBridge.Register

/-- Pools that differ in their grouping alone. -/
inductive Regroups : List (List Register) → List (List Register) → Prop
  /-- The pools are reordered. -/
  | perm {pools others : List (List Register)} (reordered : pools.Perm others) :
      Regroups pools others
  /-- The members of a pool are reordered. -/
  | members {pool other : List Register} (reordered : pool.Perm other)
      (pools : List (List Register)) : Regroups (pool :: pools) (other :: pools)
  /-- A pool is split; the other way round, two pools are merged. -/
  | split (first second : List Register) (pools : List (List Register)) :
      Regroups ((first ++ second) :: pools) (first :: second :: pools)
  /-- A pool is given once more. -/
  | again {pool : List Register} {pools : List (List Register)} (given : pool ∈ pools) :
      Regroups pools (pool :: pools)
  /-- A member of a pool is listed once more. -/
  | memberAgain {r : Register} {pool : List Register} (listed : r ∈ pool)
      (pools : List (List Register)) : Regroups (pool :: pools) ((r :: pool) :: pools)
  | symm {pools others : List (List Register)} (back : Regroups others pools) :
      Regroups pools others
  | trans {pools between others : List (List Register)} (first : Regroups pools between)
      (second : Regroups between others) : Regroups pools others

/-- Regrouped pools have the same members. -/
theorem Regroups.mem_flatten_iff {pools others : List (List Register)}
    (regrouped : Regroups pools others) (r : Register) :
    r ∈ pools.flatten ↔ r ∈ others.flatten := by
  induction regrouped with
  | perm reordered => exact reordered.flatten.mem_iff
  | members reordered pools => rw [List.flatten_cons, List.flatten_cons, List.mem_append,
      List.mem_append, reordered.mem_iff]
  | split first second pools => simp only [List.flatten_cons, List.append_assoc]
  | again given =>
    rw [List.flatten_cons, List.mem_append, or_iff_right_of_imp]
    exact fun mem => List.mem_flatten.mpr ⟨_, given, mem⟩
  | memberAgain listed pools =>
    rw [List.flatten_cons, List.flatten_cons, List.mem_append, List.mem_append, List.mem_cons]
    refine or_congr_left ⟨.inr, ?_⟩
    rintro (rfl | mem)
    · exact listed
    · exact mem
  | symm _ ih => exact ih.symm
  | trans _ _ first second => exact first.trans second

variable {candidates : List Register} {pools others : List (List Register)}

/-- The first number that is too large ends the selection. -/
theorem callerSaved_eq_error_iff {p : Panic} :
    callerSaved candidates pools = .error p ↔
      ∃ r, pools.flatten.find? (RegisterSet.bound ≤ ·.number.toNat) = some r ∧
        p = .registerOutOfRange r := by
  rw [callerSaved_eq, ← RegisterSet.ofList_eq_error_iff]
  cases RegisterSet.ofList pools.flatten <;> simp [Except.map]

theorem mem_number_iff (pools : List (List Register)) (n : UInt16) :
    (∃ pool ∈ pools, n ∈ pool.map (·.number)) ↔
      n.toNat ∈ pools.flatten.map (·.number.toNat) := by
  simp only [List.mem_map, List.mem_flatten, UInt16.toNat_inj]
  constructor
  · rintro ⟨pool, given, r, mem, own⟩
    exact ⟨r, ⟨pool, given, mem⟩, own⟩
  · rintro ⟨r, ⟨pool, given, mem⟩, own⟩
    exact ⟨pool, given, r, mem, own⟩

/-- The selection goes by the numbers of all pools together. -/
theorem callerSaved_eq_ok_iff_flatten {result : List Register} :
    callerSaved candidates pools = .ok result ↔
      (∀ r ∈ pools.flatten, r.number.toNat < RegisterSet.bound) ∧
        result = candidates.filter (·.number.toNat ∈ pools.flatten.map (·.number.toNat)) := by
  rw [callerSaved_eq_ok_iff, List.forall_mem_flatten]
  simp only [mem_number_iff]

/-- Pools with the same numbers select the same registers. -/
theorem toOption_callerSaved_congr (same : SameNumbers pools.flatten others.flatten) :
    (callerSaved candidates pools).toOption = (callerSaved candidates others).toOption := by
  refine toOption_congr fun result => ?_
  rw [callerSaved_eq_ok_iff_flatten, callerSaved_eq_ok_iff_flatten,
    same.forall_iff (· < RegisterSet.bound)]
  simp only [same _]

/-- More pools select no fewer registers. -/
theorem exists_callerSaved_of_subset {result : List Register} (fewer : pools ⊆ others)
    (selected : callerSaved candidates others = .ok result) :
    ∃ before, callerSaved candidates pools = .ok before ∧ before.Sublist result := by
  obtain ⟨low, rfl⟩ := callerSaved_eq_ok_iff.mp selected
  refine ⟨_, callerSaved_eq_ok_iff.mpr ⟨fun pool given => low pool (fewer given), rfl⟩, ?_⟩
  refine List.monotone_filter_right _ fun r mem => ?_
  obtain ⟨pool, given, own⟩ := of_decide_eq_true mem
  exact decide_eq_true ⟨pool, fewer given, own⟩

/-- The selection panics exactly if a pool has a number of 128 or more, and names the first one.
Otherwise it is the candidates, in their order, whose number occurs in some pool: nothing that only
pools mention, and nothing twice that the candidates list once. It does not depend on how the pools
are grouped, and further pools can only add registers. -/
theorem callerSaved_by_number (candidates : List Register) (pools : List (List Register)) :
    ((∃ p, callerSaved candidates pools = .error p) ↔
        ∃ pool ∈ pools, ∃ r ∈ pool, 128 ≤ r.number.toNat) ∧
      (∀ p, callerSaved candidates pools = .error p →
        ∃ r, pools.flatten.find? (128 ≤ ·.number.toNat) = some r ∧ p = .registerOutOfRange r) ∧
      (∀ result, callerSaved candidates pools = .ok result →
        result = candidates.filter (fun r => ∃ pool ∈ pools, r.number ∈ pool.map (·.number)) ∧
        (∀ r ∈ result, r ∈ candidates) ∧ (candidates.Nodup → result.Nodup)) ∧
      (∀ others, Regroups pools others →
        (callerSaved candidates pools).toOption = (callerSaved candidates others).toOption) ∧
      ∀ others result, pools ⊆ others → callerSaved candidates others = .ok result →
        ∃ before, callerSaved candidates pools = .ok before ∧ before.Sublist result := by
  refine ⟨?_, fun p => callerSaved_eq_error_iff.mp, ?_, ?_, ?_⟩
  · have outside : (∃ pool ∈ pools, ∃ r ∈ pool, 128 ≤ r.number.toNat) ↔
        ∃ r ∈ pools.flatten, RegisterSet.bound ≤ r.number.toNat := by
      simp only [List.mem_flatten]
      constructor
      · rintro ⟨pool, given, r, mem, large⟩
        exact ⟨r, ⟨pool, given, mem⟩, large⟩
      · rintro ⟨r, ⟨pool, given, mem⟩, large⟩
        exact ⟨pool, given, r, mem, large⟩
    rw [outside, ← RegisterSet.exists_outOfRange_iff]
    exact exists_congr fun p => callerSaved_eq_error_iff
  · intro result selected
    obtain ⟨-, rfl⟩ := callerSaved_eq_ok_iff.mp selected
    exact ⟨rfl, fun r mem => (List.mem_filter.mp mem).1, fun distinct => distinct.filter _⟩
  · intro others regrouped
    exact toOption_callerSaved_congr (.of_mem_iff regrouped.mem_flatten_iff)
  · intro others result fewer selected
    exact exists_callerSaved_of_subset fewer selected

/-- Two pools that share a register, split up, reordered and repeated. A register that no candidate
has the number of is not selected, and a number of 128 panics. -/
theorem callerSaved_by_number_of_shared :
    let r (n : Nat) := general "r" n n
    let candidates := [r 0, r 1, r 3, floating "f" 4 0]
    ∃ result, callerSaved candidates [[r 3, r 9], [r 9, r 0]] = .ok result ∧
      result = [r 0, r 3] ∧ result.Nodup ∧
      (callerSaved candidates [[r 0, r 9], [r 0, r 9], [r 3], [r 9]]).toOption = some result ∧
      (∃ before, callerSaved candidates [[r 9, r 0]] = .ok before ∧ before.Sublist result) ∧
      ∃ p, callerSaved candidates [[r 3], [r 128]] = .error p ∧
        p = .registerOutOfRange (r 128) := by
  intro r candidates
  obtain ⟨panics, -, selects, regroups, -⟩ :=
    callerSaved_by_number candidates [[r 3, r 9], [r 9, r 0]]
  obtain ⟨-, -, -, -, grows⟩ := callerSaved_by_number candidates [[r 9, r 0]]
  obtain ⟨panics', first, -⟩ := callerSaved_by_number candidates [[r 3], [r 128]]
  have again : ∃ p, callerSaved candidates [[r 3], [r 128]] = .error p := by
    rw [panics']
    exact ⟨[r 128], by simp, r 128, by simp, by simp [r, general]⟩
  have regrouped : Regroups [[r 3, r 9], [r 9, r 0]] [[r 0, r 9], [r 0, r 9], [r 3], [r 9]] :=
    (Regroups.split [r 3] [r 9] [[r 9, r 0]]).trans <|
      (Regroups.perm (List.perm_append_singleton [r 9, r 0] [[r 3], [r 9]])).trans <|
        (Regroups.members (List.Perm.swap ..) [[r 3], [r 9]]).trans (.again List.mem_cons_self)
  have low : ∀ pool ∈ [[r 3, r 9], [r 9, r 0]], ∀ s ∈ pool, s.number.toNat < 128 := by decide
  cases selected : callerSaved candidates [[r 3, r 9], [r 9, r 0]] with
  | error p =>
    obtain ⟨pool, given, s, mem, outside⟩ := panics.mp ⟨p, selected⟩
    exact absurd outside (Nat.not_le.mpr (low pool given s mem))
  | ok result =>
    obtain ⟨same, -, distinct⟩ := selects result selected
    refine ⟨result, rfl, same, distinct (by decide), ?_, ?_, ?_⟩
    · rw [← regroups _ regrouped, selected]
      rfl
    · exact grows _ result (by simp) selected
    · obtain ⟨p, failed⟩ := again
      obtain ⟨s, found, rfl⟩ := first p failed
      cases found
      exact ⟨_, failed, rfl⟩

end JitBridge.Register
