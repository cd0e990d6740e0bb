import JitBridge.Proofs.Register.Selection
import JitBridge.Register.Attributes

/-!
The attribute table, entry by entry. The registers of an architecture may be listed in any order and
more than once: a number that one of them has gets the roles that the three role lists give to that
number, and every other number gets none (`Attributes.getElem?_table`). There is a table unless a
role list has a number that is too large; the writing itself stays within the table.

`Attributes.table_by_number` says all of this of any four lists, and that lists with the same
numbers have the same table.
-/

namespace JitBridge.Attributes

/-- The roles that three lists of registers give to a number. -/
def rolesOf (caller callee allocatable : List Register) (n : Nat) : Attributes where
  callerSave := n ∈ caller.map (·.number.toNat)
  calleeSave := n ∈ callee.map (·.number.toNat)
  allocatable := n ∈ allocatable.map (·.number.toNat)

/-- The entry of a number: its roles if one of the registers has it, and no role otherwise. -/
def entry (registers caller callee allocatable : List Register) (n : Nat) : Attributes :=
  if n ∈ registers.map (·.number.toNat) then rolesOf caller callee allocatable n else {}

/-! ### The size of the table -/

/-- Every number of the list has room in the table. -/
theorem lt_tableSize {registers : List Register} {r : Register} (mem : r ∈ registers) :
    r.number.toNat < tableSize registers := by
  -- The size only grows, and takes in each register as it comes.
  have grows (size : Nat) :
      size ≤ registers.foldl (fun size r => max size (r.number.toNat + 1)) size ∧
        ∀ q ∈ registers, q.number.toNat <
          registers.foldl (fun size r => max size (r.number.toNat + 1)) size := by
    clear mem
    induction registers generalizing size with
    | nil => exact ⟨Nat.le_refl _, nofun⟩
    | cons first rest ih =>
      obtain ⟨start, within⟩ := ih (max size (first.number.toNat + 1))
      rw [List.foldl_cons]
      refine ⟨by omega, fun q mem => ?_⟩
      rcases List.mem_cons.mp mem with rfl | later
      · omega
      · exact within q later
  exact (grows 0).2 r mem

/-- The table is no longer than the numbers ask for. -/
theorem exists_tableSize {registers : List Register} (some : registers ≠ []) :
    ∃ r ∈ registers, tableSize registers = r.number.toNat + 1 := by
  -- The size is what it was at first until a register makes it grow.
  have attained (size : Nat) :
      registers.foldl (fun size r => max size (r.number.toNat + 1)) size = size ∨
        ∃ r ∈ registers, registers.foldl (fun size r => max size (r.number.toNat + 1)) size =
          r.number.toNat + 1 := by
    clear some
    induction registers generalizing size with
    | nil => exact .inl rfl
    | cons first rest ih =>
      rw [List.foldl_cons]
      rcases ih (max size (first.number.toNat + 1)) with same | ⟨r, mem, own⟩
      · rw [same]
        rcases Nat.le_total size (first.number.toNat + 1) with grows | stays
        · exact .inr ⟨first, List.mem_cons_self, Nat.max_eq_right grows⟩
        · exact .inl (Nat.max_eq_left stays)
      · exact .inr ⟨r, List.mem_cons_of_mem _ mem, own⟩
  rcases attained 0 with none | found
  · obtain ⟨r, mem⟩ := List.exists_mem_of_ne_nil _ some
    have room := lt_tableSize mem
    rw [tableSize, none] at room
    exact absurd room (Nat.not_lt_zero _)
  · exact found

theorem tableSize_le {registers others : List Register}
    (within : ∀ n ∈ registers.map (·.number.toNat), n ∈ others.map (·.number.toNat)) :
    tableSize registers ≤ tableSize others := by
  rcases eq_or_ne registers [] with rfl | some
  · exact Nat.zero_le _
  · obtain ⟨r, mem, size⟩ := exists_tableSize some
    obtain ⟨s, mem', same⟩ := List.mem_map.mp (within _ (List.mem_map_of_mem mem))
    have room := lt_tableSize mem'
    omega

/-! ### Writing the table -/

/-- Written register by register, the entry of a number is what its roles are, if a register of the
list has that number, and is left alone otherwise. -/
theorem getElem?_foldl_set (roles : Nat → Attributes) (registers : List Register)
    (table : List Attributes) (n : Nat) :
    (registers.foldl (fun table r => table.set r.number.toNat (roles r.number.toNat)) table)[n]? =
      if n ∈ registers.map (·.number.toNat) then table[n]?.map fun _ => roles n else table[n]? := by
  induction registers generalizing table with
  | nil => rfl
  | cons r rest ih =>
    rw [List.foldl_cons, ih, List.map_cons]
    by_cases own : r.number.toNat = n
    · subst own
      rw [if_pos (List.mem_cons_self ..), List.getElem?_set_self']
      cases table[r.number.toNat]? <;> simp
    · rw [List.getElem?_set_ne own]
      simp only [List.mem_cons, Ne.symm own, false_or]

/-- Within the table, every write is made. -/
theorem foldlM_write (roles : Register → Attributes) {registers : List Register}
    {table : List Attributes} (inside : ∀ r ∈ registers, r.number.toNat < table.length) :
    registers.foldlM (write roles) table =
      .ok (registers.foldl (fun table r => table.set r.number.toNat (roles r)) table) := by
  induction registers generalizing table with
  | nil => rfl
  | cons r rest ih =>
    obtain ⟨own, later⟩ := List.forall_mem_cons.mp inside
    have next : ∀ q ∈ rest, q.number.toNat < (table.set r.number.toNat (roles r)).length := by
      simpa using later
    rw [List.foldlM_cons, write, if_pos own, List.foldl_cons]
    exact ih next

/-- Written within its size, the table holds the entry of each number. -/
theorem foldlM_write_entries (registers caller callee allocatable : List Register) :
    registers.foldlM (write fun r => rolesOf caller callee allocatable r.number.toNat)
        (List.replicate (tableSize registers) {}) =
      .ok ((List.range (tableSize registers)).map (entry registers caller callee allocatable)) := by
  rw [foldlM_write]
  · refine congrArg _ (List.ext_getElem? fun n => ?_)
    rw [getElem?_foldl_set, List.getElem?_map, List.getElem?_replicate]
    rcases Nat.lt_or_ge n (tableSize registers) with inside | outside
    · rw [if_pos inside, List.getElem?_range inside, Option.map_some, Option.map_some, entry]
      split <;> rfl
    · rw [if_neg (Nat.not_lt.mpr outside), List.getElem?_eq_none (by simpa using outside)]
      split <;> rfl
  · intro r mem
    rw [List.length_replicate]
    exact lt_tableSize mem

variable {registers caller allocatable : List Register} {callee : Option (List Register)}

/-- There is a table if no role list has a number that is too large. -/
theorem table_eq (callerInside : ∀ r ∈ caller, r.number.toNat < RegisterSet.bound)
    (calleeInside : ∀ r ∈ callee.getD [], r.number.toNat < RegisterSet.bound)
    (allocatableInside : ∀ r ∈ allocatable, r.number.toNat < RegisterSet.bound) :
    table registers caller callee allocatable = .ok ((List.range (tableSize registers)).map
      (entry registers caller (callee.getD []) allocatable)) := by
  obtain ⟨callerSet, madeCaller⟩ := RegisterSet.exists_ofList callerInside
  obtain ⟨calleeSet, madeCallee⟩ := RegisterSet.exists_ofList calleeInside
  obtain ⟨allocatableSet, madeAllocatable⟩ := RegisterSet.exists_ofList allocatableInside
  have roles : ofSets callerSet calleeSet allocatableSet =
      fun r => rolesOf caller (callee.getD []) allocatable r.number.toNat := by
    funext r
    simp only [ofSets, rolesOf, RegisterSet.contains_of_ofList madeCaller,
      RegisterSet.contains_of_ofList madeCallee, RegisterSet.contains_of_ofList madeAllocatable,
      List.mem_map, UInt16.toNat_inj]
  rw [table, madeCaller, madeCallee, madeAllocatable, ← foldlM_write_entries, ← roles]
  rfl

/-- The table reaches to the largest number, and has the roles of each number of a register. -/
theorem getElem?_table (callerInside : ∀ r ∈ caller, r.number.toNat < RegisterSet.bound)
    (calleeInside : ∀ r ∈ callee.getD [], r.number.toNat < RegisterSet.bound)
    (allocatableInside : ∀ r ∈ allocatable, r.number.toNat < RegisterSet.bound) :
    ∃ made, table registers caller callee allocatable = .ok made ∧
      made.length = tableSize registers ∧
      ∀ n < tableSize registers, made[n]? = some
        (if n ∈ registers.map (·.number.toNat) then rolesOf caller (callee.getD []) allocatable n
        else {}) := by
  refine ⟨_, table_eq callerInside calleeInside allocatableInside, by simp, fun n inside => ?_⟩
  rw [List.getElem?_map, List.getElem?_range inside, Option.map_some, entry]

/-! ### Panics -/

/-- The first number of a role list that is too large ends the making of the sets, in the order
caller, callee, allocatable. Nothing else panics. -/
theorem table_eq_error_iff {p : Panic} :
    table registers caller callee allocatable = .error p ↔
      ∃ r, (caller ++ callee.getD [] ++ allocatable).find? (RegisterSet.bound ≤ ·.number.toNat) =
        some r ∧ p = .registerOutOfRange r := by
  rw [List.find?_append, List.find?_append]
  cases inCaller : caller.find? (RegisterSet.bound ≤ ·.number.toNat) with
  | some r =>
    rw [table, RegisterSet.ofList, RegisterSet.insertAll_of_find _ inCaller]
    simp [bind, Except.bind, eq_comm]
  | none =>
    obtain ⟨callerSet, madeCaller, -⟩ := RegisterSet.empty.exists_insertAll inCaller
    cases inCallee : (callee.getD []).find? (RegisterSet.bound ≤ ·.number.toNat) with
    | some r =>
      rw [table, RegisterSet.ofList, madeCaller, RegisterSet.ofList,
        RegisterSet.insertAll_of_find _ inCallee]
      simp [bind, Except.bind, eq_comm]
    | none =>
      obtain ⟨calleeSet, madeCallee, -⟩ := RegisterSet.empty.exists_insertAll inCallee
      cases inAllocatable : allocatable.find? (RegisterSet.bound ≤ ·.number.toNat) with
      | some r =>
        rw [table, RegisterSet.ofList, madeCaller, RegisterSet.ofList, madeCallee,
          RegisterSet.ofList, RegisterSet.insertAll_of_find _ inAllocatable]
        simp [bind, Except.bind, eq_comm]
      | none =>
        rw [table_eq (by simpa using inCaller) (by simpa using inCallee)
          (by simpa using inAllocatable)]
        simp

/-- There is a table exactly if no role list has a number that is too large, and it has an entry for
every number up to the largest one. -/
theorem table_eq_ok_iff {made : List Attributes} :
    table registers caller callee allocatable = .ok made ↔
      (∀ r ∈ caller ++ callee.getD [] ++ allocatable, r.number.toNat < RegisterSet.bound) ∧
        made = (List.range (tableSize registers)).map
          (entry registers caller (callee.getD []) allocatable) := by
  constructor
  · intro built
    have inside : ∀ r ∈ caller ++ callee.getD [] ++ allocatable,
        r.number.toNat < RegisterSet.bound := by
      cases found : (caller ++ callee.getD [] ++ allocatable).find?
          (RegisterSet.bound ≤ ·.number.toNat) with
      | some r =>
        rw [table_eq_error_iff.mpr ⟨r, found, rfl⟩] at built
        cases built
      | none =>
        intro r mem
        simpa using List.find?_eq_none.mp found r mem
    refine ⟨inside, ?_⟩
    simp only [List.forall_mem_append] at inside
    rw [table_eq inside.1.1 inside.1.2 inside.2] at built
    exact (Except.ok.inj built).symm
  · rintro ⟨inside, rfl⟩
    simp only [List.forall_mem_append] at inside
    exact table_eq inside.1.1 inside.1.2 inside.2

/-! ### The table by number -/

theorem entry_congr {registers registers' caller caller' callee callee' allocatable
    allocatable' : List Register} (sameRegisters : Register.SameNumbers registers registers')
    (sameCaller : Register.SameNumbers caller caller')
    (sameCallee : Register.SameNumbers callee callee')
    (sameAllocatable : Register.SameNumbers allocatable allocatable') :
    entry registers caller callee allocatable =
      entry registers' caller' callee' allocatable' := by
  funext n
  simp only [entry, rolesOf, sameRegisters n, sameCaller n, sameCallee n, sameAllocatable n]

/-- There is a table unless a role list has a number of 128 or more; then the panic names the first
one, and no other panic is possible: nothing is written outside the table. The table reaches to the
largest number, and at each number there are the roles that the three lists give to it, if one of
the registers has it. So lists with the same numbers, in any order and however often, have the same
table. -/
theorem table_by_number (registers caller : List Register) (callee : Option (List Register))
    (allocatable : List Register) :
    let roles := caller ++ callee.getD [] ++ allocatable
    ((∃ p, table registers caller callee allocatable = .error p) ↔
        ∃ r ∈ roles, 128 ≤ r.number.toNat) ∧
      (∀ p, table registers caller callee allocatable = .error p →
        ∃ r, roles.find? (128 ≤ ·.number.toNat) = some r ∧ p = .registerOutOfRange r) ∧
      (∀ made, table registers caller callee allocatable = .ok made →
        (∀ r ∈ registers, r.number.toNat < made.length) ∧
        (registers = [] ∧ made.length = 0 ∨
          ∃ r ∈ registers, made.length = r.number.toNat + 1) ∧
        ∀ n < made.length, made[n]? = some
          (if n ∈ registers.map (·.number.toNat) then
            { callerSave := n ∈ caller.map (·.number.toNat)
              calleeSave := n ∈ (callee.getD []).map (·.number.toNat)
              allocatable := n ∈ allocatable.map (·.number.toNat) }
          else { callerSave := false, calleeSave := false, allocatable := false })) ∧
      ∀ registers' caller' callee' allocatable', Register.SameNumbers registers registers' →
        Register.SameNumbers caller caller' →
        Register.SameNumbers (callee.getD []) (Option.getD callee' []) →
        Register.SameNumbers allocatable allocatable' →
        (table registers caller callee allocatable).toOption =
          (table registers' caller' callee' allocatable').toOption := by
  intro roles
  refine ⟨?_, fun p => table_eq_error_iff.mp, ?_, ?_⟩
  · exact (exists_congr fun p => table_eq_error_iff).trans RegisterSet.exists_outOfRange_iff
  · intro made built
    obtain ⟨-, rfl⟩ := table_eq_ok_iff.mp built
    rw [List.length_map, List.length_range]
    refine ⟨fun r => lt_tableSize, ?_, fun n inside => ?_⟩
    · rcases eq_or_ne registers [] with rfl | some
      · exact .inl ⟨rfl, rfl⟩
      · exact .inr (exists_tableSize some)
    · rw [List.getElem?_map, List.getElem?_range inside, Option.map_some, entry]
      rfl
  · intro registers' caller' callee' allocatable' sameRegisters sameCaller sameCallee
      sameAllocatable
    have size : tableSize registers = tableSize registers' :=
      (tableSize_le fun n => (sameRegisters n).mp).antisymm
        (tableSize_le fun n => (sameRegisters n).mpr)
    have inside := ((sameCaller.append sameCallee).append sameAllocatable).forall_iff
      (· < RegisterSet.bound)
    refine toOption_congr fun made => ?_
    rw [table_eq_ok_iff, table_eq_ok_iff, inside, size,
      entry_congr sameRegisters sameCaller sameCallee sameAllocatable]

/-- Registers with a gap and a number listed twice: the gap has no role, and the lists of roles are
matched by number, in any order. A number that is too large in a role list panics. -/
theorem table_by_number_of_gap :
    let registers := [Register.general "d" 3 0, .general "b" 1 0, .floating "b" 1 7]
    let caller := [Register.general "x" 1 0]
    let allocatable := [Register.general "b" 1 0, .general "d" 3 0]
    ∃ made, table registers caller none allocatable = .ok made ∧ made.length = 4 ∧
      made[1]? = some ⟨true, false, true⟩ ∧ made[2]? = some ⟨false, false, false⟩ ∧
      made[3]? = some ⟨false, false, true⟩ ∧
      (table registers.reverse caller none (allocatable.reverse ++ allocatable)).toOption =
        some made ∧
      ∃ p, table registers caller (some [.general "y" 130 0]) allocatable = .error p ∧
        p = .registerOutOfRange (.general "y" 130 0) := by
  intro registers caller allocatable
  obtain ⟨panics, -, entries, same⟩ := table_by_number registers caller none allocatable
  obtain ⟨panics', first, -⟩ :=
    table_by_number registers caller (some [.general "y" 130 0]) allocatable
  have again : ∃ p, table registers caller (some [.general "y" 130 0]) allocatable = .error p := by
    rw [panics']
    exact ⟨.general "y" 130 0, by simp, by simp [Register.general]⟩
  cases built : table registers caller none allocatable with
  | error p =>
    obtain ⟨r, mem, outside⟩ := panics.mp ⟨p, built⟩
    simp [caller, allocatable, Register.general] at mem
    rcases mem with rfl | rfl | rfl <;> simp at outside
  | ok made =>
    obtain ⟨room, size, roles⟩ := entries made built
    have length : made.length = 4 := by
      simp [registers, Register.general, Register.floating] at room size
      omega
    refine ⟨made, rfl, length, ?_, ?_, ?_, ?_, ?_⟩
    · rw [roles 1 (by omega)]
      rfl
    · rw [roles 2 (by omega)]
      rfl
    · rw [roles 3 (by omega)]
      rfl
    · rw [← same _ _ none _ (.of_mem_iff fun r => List.mem_reverse.symm) (.of_mem_iff fun r => .rfl)
        (.of_mem_iff fun r => .rfl) (.of_mem_iff fun r => by simp), built]
      rfl
    · obtain ⟨p, failed⟩ := again
      obtain ⟨r, found, rfl⟩ := first p failed
      cases found
      exact ⟨_, failed, rfl⟩

end JitBridge.Attributes
