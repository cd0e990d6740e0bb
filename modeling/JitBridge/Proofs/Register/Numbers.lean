import JitBridge.Register.Set
import Mathlib.Data.Finset.Card
import Mathlib.Logic.Function.Basic

/-!
What a register set stands for: the finite set of the numbers, all below 128, whose bits its words
have. `RegisterSet.numbers` is that set, and each operation on words is an operation on it that
knows of a register only its number.

`RegisterSets.call_numbers` puts this together for one call on several sets, of which one may be
united with another; `RegisterSets.run_refines_numbers` follows the calls of a run.
-/

namespace JitBridge

namespace RegisterSet

/-- The numbers that the words of a set hold. -/
def numbers (s : RegisterSet) : Finset Nat := (Finset.range bound).filter (s.has · = true)

@[simp] theorem mem_numbers {s : RegisterSet} {n : Nat} : n ∈ s.numbers ↔ s.has n = true := by
  rw [numbers, Finset.mem_filter, Finset.mem_range, and_iff_right_iff_imp]
  intro has
  by_contra outside
  rw [s.has_of_le (Nat.le_of_not_lt outside)] at has
  cases has

/-- A set holds numbers below the bound only. -/
theorem lt_bound_of_mem_numbers {s : RegisterSet} {n : Nat} (mem : n ∈ s.numbers) : n < bound :=
  Finset.mem_range.mp (Finset.mem_filter.mp mem).1

/-- The words hold nothing but the numbers. -/
theorem numbers_inj {s t : RegisterSet} : s.numbers = t.numbers ↔ s = t := by
  constructor
  · intro same
    refine ext_has fun n => Bool.eq_iff_iff.mpr ?_
    rw [← mem_numbers, ← mem_numbers, same]
  · rintro rfl
    rfl

@[simp] theorem numbers_empty : (∅ : RegisterSet).numbers = ∅ := by
  ext n
  simp

@[simp] theorem numbers_union (s t : RegisterSet) : (s ∪ t).numbers = s.numbers ∪ t.numbers := by
  ext n
  simp

@[simp] theorem numbers_erase (s : RegisterSet) (r : Register) :
    (s.erase r).numbers = s.numbers.erase r.number.toNat := by
  ext n
  simp [has_erase, and_comm]

theorem numbers_of_insert {s t : RegisterSet} {r : Register} {fresh : Bool}
    (inserted : s.insert r = .ok (fresh, t)) :
    t.numbers = Insert.insert r.number.toNat s.numbers := by
  ext n
  simp [has_of_insert inserted, or_comm]

/-! ### Questions -/

theorem contains_eq_decide (s : RegisterSet) (r : Register) :
    s.contains r = decide (r.number.toNat ∈ s.numbers) := by
  simp [contains_eq]

theorem members_eq_filter (s : RegisterSet) (candidates : List Register) :
    s.members candidates = candidates.filter (·.number.toNat ∈ s.numbers) :=
  List.filter_congr fun r _ => s.contains_eq_decide r

theorem isEmpty_eq_decide (s : RegisterSet) : s.isEmpty = decide (s.numbers = ∅) := by
  rw [← numbers_empty, Bool.eq_iff_iff, decide_eq_true_iff, numbers_inj, isEmpty,
    Vector.all_eq_true]
  obtain ⟨words⟩ := s
  constructor
  · intro zero
    refine congrArg mk (Vector.ext fun i inside => ?_)
    rw [Vector.getElem_replicate]
    exact beq_iff_eq.mp (zero i inside)
  · intro same i inside
    cases same
    simp

/-- One word is in another if it has no bit outside. -/
theorem and_not_eq_zero_iff {word other : UInt64} :
    word &&& ~~~other = 0 ↔
      ∀ i < 64, word.toBitVec.getLsbD i = true → other.toBitVec.getLsbD i = true := by
  rw [← UInt64.toBitVec_inj, UInt64.toBitVec_and, UInt64.toBitVec_not]
  constructor
  · intro zero i inside held
    have bit := congrArg (BitVec.getLsbD · i) zero
    simpa [inside, held] using bit
  · intro held
    refine BitVec.eq_of_getLsbD_eq fun i inside => ?_
    rw [BitVec.getLsbD_and, BitVec.getLsbD_not, decide_eq_true inside, Bool.true_and]
    cases bit : word.toBitVec.getLsbD i with
    | false => simp
    | true => simp [held i inside bit]

theorem isSubset_eq_decide (s t : RegisterSet) :
    s.isSubset t = decide (s.numbers ⊆ t.numbers) := by
  rw [Bool.eq_iff_iff, decide_eq_true_iff, isSubset, Vector.all_eq_true]
  simp only [Vector.getElem_zip, beq_iff_eq, and_not_eq_zero_iff]
  constructor
  · intro inWords n mem
    have low := lt_bound_of_mem_numbers mem
    rw [mem_numbers, has_of_lt _ low] at mem ⊢
    exact inWords (n / 64) (wordOf n low).isLt (n % 64) (Nat.mod_lt _ (by decide)) mem
  · intro within k word i place held
    have low : 64 * k + i < bound := by
      unfold bound
      omega
    have own : (64 * k + i) / 64 = k := by omega
    have rest : (64 * k + i) % 64 = i := by omega
    have mem : 64 * k + i ∈ s.numbers := by
      rw [mem_numbers, has_of_lt _ low]
      simpa only [Fin.getElem_fin, wordOf, own, rest] using held
    have found := within mem
    rw [mem_numbers, has_of_lt _ low] at found
    simpa only [Fin.getElem_fin, wordOf, own, rest] using found

/-- The bits of a word are counted one by one. -/
theorem toNat_cpop (word : UInt64) :
    word.toBitVec.cpop.toNat = (List.range 64).countP word.toBitVec.getLsbD := by
  have upTo (k : Nat) :
      word.toBitVec.cpopNatRec k 0 = (List.range k).countP word.toBitVec.getLsbD := by
    induction k with
    | zero => rfl
    | succ k ih =>
      rw [BitVec.cpopNatRec_succ, BitVec.cpopNatRec_add, ih, List.range_succ, List.countP_append,
        List.countP_singleton]
      cases word.toBitVec.getLsbD k <;> simp
  rw [BitVec.toNat_cpop, upTo]

theorem card_numbers (s : RegisterSet) : s.numbers.card = (List.range bound).countP s.has := by
  have listed : s.numbers = ((List.range bound).filter s.has).toFinset := by
    ext n
    simp [numbers]
  rw [listed, List.toFinset_card_of_nodup (List.nodup_range.filter _), List.countP_eq_length_filter]

/-- The first word has the numbers below 64, the second one the rest. -/
theorem has_add (a b : UInt64) {n : Nat} (inside : n < 64) :
    has ⟨#v[a, b]⟩ n = a.toBitVec.getLsbD n ∧ has ⟨#v[a, b]⟩ (64 + n) = b.toBitVec.getLsbD n := by
  have first : n / 64 = 0 := by omega
  have second : (64 + n) / 64 = 1 := by omega
  have place : n % 64 = n := by omega
  constructor
  · simp [has, first, place]
  · simp [has, second, place]

theorem size_eq_card (s : RegisterSet) : s.size = s.numbers.card := by
  obtain ⟨words⟩ := s
  obtain ⟨a, b, rfl⟩ : ∃ a b, words = #v[a, b] := by
    refine ⟨words[0], words[1], Vector.ext fun i inside => ?_⟩
    match i with
    | 0 => rfl
    | 1 => rfl
  have both : List.range bound = List.range 64 ++ (List.range 64).map (64 + ·) := by decide
  calc size ⟨#v[a, b]⟩
    _ = a.toBitVec.cpop.toNat + b.toBitVec.cpop.toNat := by simp [size]
    _ = (List.range 64).countP a.toBitVec.getLsbD +
        (List.range 64).countP b.toBitVec.getLsbD := by
      rw [toNat_cpop, toNat_cpop]
    _ = (List.range bound).countP (has ⟨#v[a, b]⟩) := by
      rw [both, List.countP_append, List.countP_map]
      refine congrArg₂ (· + ·) (List.countP_congr fun n mem => ?_)
        (List.countP_congr fun n mem => ?_)
      · rw [(has_add a b (List.mem_range.mp mem)).1]
      · rw [Function.comp_apply, (has_add a b (List.mem_range.mp mem)).2]
    _ = (numbers ⟨#v[a, b]⟩).card := (card_numbers _).symm

/-! ### Sets made of a list -/

/-- A list adds the numbers of its registers. -/
theorem exists_insertAll {registers : List Register} (s : RegisterSet)
    (inside : registers.find? (bound ≤ ·.number.toNat) = none) :
    ∃ t, s.insertAll registers = .ok t ∧
      t.numbers = s.numbers ∪ (registers.map (·.number.toNat)).toFinset := by
  induction registers generalizing s with
  | nil => exact ⟨s, rfl, by simp⟩
  | cons r rest ih =>
    rw [List.find?_eq_none, List.forall_mem_cons, ← List.find?_eq_none, decide_eq_true_iff,
      Nat.not_le] at inside
    obtain ⟨next, inserted⟩ := s.exists_insert inside.1
    obtain ⟨t, added, numbers⟩ := ih next inside.2
    refine ⟨t, ?_, ?_⟩
    · rw [insertAll, inserted]
      exact added
    · rw [numbers, numbers_of_insert inserted, List.map_cons, List.toFinset_cons,
        Finset.insert_union, Finset.union_insert]

/-- The first register of a number in no set ends the list with a panic. -/
theorem insertAll_of_find {registers : List Register} {r : Register} (s : RegisterSet)
    (outside : registers.find? (bound ≤ ·.number.toNat) = some r) :
    s.insertAll registers = .error (.registerOutOfRange r) := by
  induction registers generalizing s with
  | nil => cases outside
  | cons first rest ih =>
    rw [insertAll]
    rcases Nat.lt_or_ge first.number.toNat bound with inside | beyond
    · obtain ⟨next, inserted⟩ := s.exists_insert inside
      rw [List.find?_cons_of_neg (by simpa using inside)] at outside
      rw [inserted]
      exact ih next outside
    · rw [List.find?_cons_of_pos (by simpa using beyond)] at outside
      cases outside
      rw [s.insert_of_le beyond]

/-- A set made of a list does not depend on the order of the list, nor on repetitions in it. -/
theorem toOption_ofList_congr {registers others : List Register}
    (same : ∀ n, n ∈ registers.map (·.number.toNat) ↔ n ∈ others.map (·.number.toNat)) :
    (ofList registers).toOption = (ofList others).toOption := by
  have outside : (registers.find? (bound ≤ ·.number.toNat)).isSome =
      (others.find? (bound ≤ ·.number.toNat)).isSome := by
    have among (list : List Register) : (list.find? (bound ≤ ·.number.toNat)).isSome = true ↔
        ∃ n ∈ list.map (·.number.toNat), bound ≤ n := by
      simp
    rw [Bool.eq_iff_iff, among, among]
    exact exists_congr fun n => and_congr_left' (same n)
  cases found : registers.find? (bound ≤ ·.number.toNat) with
  | some r =>
    rw [found] at outside
    obtain ⟨q, found'⟩ := Option.isSome_iff_exists.mp outside.symm
    rw [ofList, ofList, insertAll_of_find empty found, insertAll_of_find empty found']
    rfl
  | none =>
    rw [found] at outside
    have found' := Option.isNone_iff_eq_none.mp (Option.isSome_eq_false_iff.mp outside.symm)
    obtain ⟨s, made, numbers⟩ := exists_insertAll empty found
    obtain ⟨t, made', numbers'⟩ := exists_insertAll empty found'
    have equal : s = t := by
      rw [← numbers_inj, numbers, numbers']
      congr 1
      ext n
      rw [List.mem_toFinset, List.mem_toFinset, same]
    rw [ofList, ofList, made, made', equal]

end RegisterSet

/-! ### Runs -/

/-- A call on register sets that have names. -/
inductive SetCall where
  | new (name : Nat)
  | ofList (name : Nat) (registers : List Register)
  | insert (name : Nat) (r : Register)
  | erase (name : Nat) (r : Register)
  | union (name other : Nat)
  | contains (name : Nat) (r : Register)
  | size (name : Nat)
  | isEmpty (name : Nat)
  | isSubset (name other : Nat)
  | equal (name other : Nat)
  | members (name : Nat) (candidates : List Register)

/-- The answer to a call on register sets. -/
inductive SetAnswer where
  | done
  | told (answer : Bool)
  | counted (n : Nat)
  | listed (registers : List Register)
  | panicked (p : Panic)
deriving DecidableEq

/-- Register sets by name. -/
abbrev RegisterSets : Type := Nat → RegisterSet

namespace RegisterSets

/-- One call: its answer, and the sets after it. A call that panics leaves them as they were. -/
def call (sets : RegisterSets) : SetCall → SetAnswer × RegisterSets
  | .new name => (.done, Function.update sets name ∅)
  | .ofList name registers =>
    match RegisterSet.ofList registers with
    | .ok s => (.done, Function.update sets name s)
    | .error p => (.panicked p, sets)
  | .insert name r =>
    match (sets name).insert r with
    | .ok (fresh, s) => (.told fresh, Function.update sets name s)
    | .error p => (.panicked p, sets)
  | .erase name r => (.done, Function.update sets name ((sets name).erase r))
  | .union name other => (.done, Function.update sets name (sets name ∪ sets other))
  | .contains name r => (.told ((sets name).contains r), sets)
  | .size name => (.counted (sets name).size, sets)
  | .isEmpty name => (.told (sets name).isEmpty, sets)
  | .isSubset name other => (.told ((sets name).isSubset (sets other)), sets)
  | .equal name other => (.told (decide (sets name = sets other)), sets)
  | .members name candidates => (.listed ((sets name).members candidates), sets)

/-- The sets after the calls of a run. -/
def after (sets : RegisterSets) : List SetCall → RegisterSets
  | [] => sets
  | call :: calls => (sets.call call).2.after calls

/-- The answers to the calls of a run, in order. -/
def answers (sets : RegisterSets) : List SetCall → List SetAnswer
  | [] => []
  | call :: calls => (sets.call call).1 :: (sets.call call).2.answers calls

end RegisterSets

/-- Finite sets of numbers by name. -/
abbrev NumberSets : Type := Nat → Finset Nat

namespace NumberSets

/-- One call on finite sets of numbers, of which only the numbers of registers are used. -/
def call (sets : NumberSets) : SetCall → SetAnswer × NumberSets
  | .new name => (.done, Function.update sets name ∅)
  | .ofList name registers =>
    match registers.find? (RegisterSet.bound ≤ ·.number.toNat) with
    | some r => (.panicked (.registerOutOfRange r), sets)
    | none => (.done, Function.update sets name (registers.map (·.number.toNat)).toFinset)
  | .insert name r =>
    if r.number.toNat < RegisterSet.bound then
      (.told (r.number.toNat ∉ sets name),
        Function.update sets name (Insert.insert r.number.toNat (sets name)))
    else (.panicked (.registerOutOfRange r), sets)
  | .erase name r => (.done, Function.update sets name ((sets name).erase r.number.toNat))
  | .union name other => (.done, Function.update sets name (sets name ∪ sets other))
  | .contains name r => (.told (r.number.toNat ∈ sets name), sets)
  | .size name => (.counted (sets name).card, sets)
  | .isEmpty name => (.told (sets name = ∅), sets)
  | .isSubset name other => (.told (sets name ⊆ sets other), sets)
  | .equal name other => (.told (sets name = sets other), sets)
  | .members name candidates => (.listed (candidates.filter (·.number.toNat ∈ sets name)), sets)

/-- The finite sets after the calls of a run. -/
def after (sets : NumberSets) : List SetCall → NumberSets
  | [] => sets
  | call :: calls => (sets.call call).2.after calls

/-- The answers to the calls of a run, in order. -/
def answers (sets : NumberSets) : List SetCall → List SetAnswer
  | [] => []
  | call :: calls => (sets.call call).1 :: (sets.call call).2.answers calls

end NumberSets

namespace RegisterSets

/-- The finite sets that register sets stand for. -/
def numbers (sets : RegisterSets) : NumberSets := fun name => (sets name).numbers

@[simp] theorem numbers_apply (sets : RegisterSets) (name : Nat) :
    sets.numbers name = (sets name).numbers := rfl

theorem numbers_update (sets : RegisterSets) (name : Nat) (s : RegisterSet) :
    numbers (Function.update sets name s) = Function.update sets.numbers name s.numbers := by
  funext other
  exact Function.apply_update (fun _ => RegisterSet.numbers) sets name s other

/-- One call on the words is the same call on the finite sets. -/
theorem call_numbers (sets : RegisterSets) (call : SetCall) :
    sets.numbers.call call = ((sets.call call).1, (sets.call call).2.numbers) := by
  cases call with
  | new name =>
    simp only [RegisterSets.call, NumberSets.call, numbers_update, RegisterSet.numbers_empty]
  | ofList name registers =>
    simp only [RegisterSets.call, NumberSets.call, RegisterSet.ofList]
    cases found : registers.find? (RegisterSet.bound ≤ ·.number.toNat) with
    | none =>
      obtain ⟨s, made, members⟩ := RegisterSet.empty.exists_insertAll found
      have fresh : RegisterSet.empty.numbers = ∅ := RegisterSet.numbers_empty
      simp only [made, numbers_update, members, fresh, Finset.empty_union]
    | some r => simp only [RegisterSet.empty.insertAll_of_find found]
  | insert name r =>
    simp only [RegisterSets.call, NumberSets.call]
    rcases Nat.lt_or_ge r.number.toNat RegisterSet.bound with inside | outside
    · obtain ⟨s, inserted⟩ := (sets name).exists_insert inside
      rw [if_pos inside]
      simp only [inserted, numbers_update, RegisterSet.numbers_of_insert inserted,
        RegisterSet.contains_eq_decide, decide_not]
      rfl
    · rw [if_neg (Nat.not_lt.mpr outside), (sets name).insert_of_le outside]
  | erase name r =>
    simp only [RegisterSets.call, NumberSets.call, numbers_update, numbers_apply,
      RegisterSet.numbers_erase]
  | union name other =>
    simp only [RegisterSets.call, NumberSets.call, numbers_update, numbers_apply,
      RegisterSet.numbers_union]
  | contains name r =>
    simp only [RegisterSets.call, NumberSets.call, RegisterSet.contains_eq_decide]
    rfl
  | size name =>
    simp only [RegisterSets.call, NumberSets.call, numbers_apply, RegisterSet.size_eq_card]
  | isEmpty name =>
    simp only [RegisterSets.call, NumberSets.call, RegisterSet.isEmpty_eq_decide]
    rfl
  | isSubset name other =>
    simp only [RegisterSets.call, NumberSets.call, RegisterSet.isSubset_eq_decide]
    rfl
  | equal name other =>
    simp only [RegisterSets.call, NumberSets.call, numbers_apply, RegisterSet.numbers_inj]
  | members name candidates =>
    simp only [RegisterSets.call, NumberSets.call, RegisterSet.members_eq_filter]
    rfl

theorem answers_numbers (sets : RegisterSets) (calls : List SetCall) :
    sets.numbers.answers calls = sets.answers calls := by
  induction calls generalizing sets with
  | nil => rfl
  | cons call calls ih => rw [NumberSets.answers, answers, call_numbers, ih]

theorem after_numbers (sets : RegisterSets) (calls : List SetCall) :
    sets.numbers.after calls = (sets.after calls).numbers := by
  induction calls generalizing sets with
  | nil => rfl
  | cons call calls ih => rw [NumberSets.after, after, call_numbers, ih]

/-- Along any run of calls, the words answer as the finite sets of numbers below 128 that they stand
for, and go on standing for them. A register of any other number is in no set: it cannot be
inserted, and to take it out changes nothing. A set made of a list is the same for all lists of the
same numbers. -/
theorem run_refines_numbers (sets : RegisterSets) (calls : List SetCall) :
    sets.answers calls = sets.numbers.answers calls ∧
      (sets.after calls).numbers = sets.numbers.after calls ∧
      (∀ name, ∀ n ∈ sets.numbers.after calls name, n < 128) ∧
      (∀ (s : RegisterSet) (r : Register), 128 ≤ r.number.toNat →
        s.insert r = .error (.registerOutOfRange r) ∧ s.erase r = s ∧ s.contains r = false) ∧
      ∀ registers others : List Register,
        (∀ n, n ∈ registers.map (·.number.toNat) ↔ n ∈ others.map (·.number.toNat)) →
          (RegisterSet.ofList registers).toOption = (RegisterSet.ofList others).toOption := by
  refine ⟨(sets.answers_numbers calls).symm, (sets.after_numbers calls).symm, ?_, ?_, ?_⟩
  · intro name n mem
    rw [after_numbers] at mem
    exact RegisterSet.lt_bound_of_mem_numbers mem
  · intro s r outside
    refine ⟨s.insert_of_le outside, ?_, ?_⟩
    · rw [RegisterSet.erase, RegisterSet.slot?_of_le outside]
    · rw [RegisterSet.contains_eq, s.has_of_le outside]
  · intro registers others same
    exact RegisterSet.toOption_ofList_congr same

/-- At the ends of the two words. -/
example :
    let at63 := Register.general "a" 63 0
    let at64 := Register.general "b" 64 0
    let at128 := Register.general "c" 128 0
    RegisterSets.answers (fun _ => ∅)
        [.insert 0 at63, .insert 0 at64, .insert 0 at128, .insert 1 at64, .isSubset 1 0, .size 0] =
      [.told true, .told true, .panicked (.registerOutOfRange at128), .told true, .told true,
        .counted 2] := by
  decide +kernel

end RegisterSets
end JitBridge
