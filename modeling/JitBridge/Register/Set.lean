import JitBridge.Panic

/-!
Sets of registers, kept as machine words with one bit per register number below 128: number `n` has
bit `n % 64` of word `n / 64`. Only the number of a register counts: registers that differ in name,
encoding or category alone are the same member. A number of 128 or more is in no set, and inserting
it panics.

`has` reads the set off the words. The `has` lemmas say what each operation does to it, and
`ext_has` that the words hold nothing else.
-/

namespace JitBridge

/-- A set of registers, by number. -/
structure RegisterSet where
  words : Vector UInt64 2
deriving DecidableEq, Repr

namespace RegisterSet

/-- Numbers from here on are in no set. -/
def bound : Nat := 128

def empty : RegisterSet := ⟨.replicate 2 0⟩

instance : EmptyCollection RegisterSet := ⟨empty⟩

/-- The word that has the bit of a number. -/
def wordOf (n : Nat) (inside : n < bound) : Fin 2 := ⟨n / 64, Nat.div_lt_of_lt_mul inside⟩

/-- The word for a register's number and the mask of its bit; `none` for a number in no set. -/
def slot? (r : Register) : Option (Fin 2 × UInt64) :=
  if inside : r.number.toNat < bound then
    some (wordOf r.number.toNat inside, 1 <<< (r.number.toUInt64 % 64))
  else none

def contains (s : RegisterSet) (r : Register) : Bool :=
  match slot? r with
  | some (word, mask) => s.words[word] &&& mask != 0
  | none => false

/-- Adds a register; the answer says whether it was missing. -/
def insert (s : RegisterSet) (r : Register) : Except Panic (Bool × RegisterSet) :=
  match slot? r with
  | some (word, mask) =>
    .ok (s.words[word] &&& mask == 0, ⟨s.words.set word (s.words[word] ||| mask)⟩)
  | none => .error (.registerOutOfRange r)

/-- Takes a register out; nothing happens if it is not there. -/
def erase (s : RegisterSet) (r : Register) : RegisterSet :=
  match slot? r with
  | some (word, mask) => ⟨s.words.set word (s.words[word] &&& ~~~mask)⟩
  | none => s

def union (s t : RegisterSet) : RegisterSet := ⟨s.words.zipWith (· ||| ·) t.words⟩

instance : Union RegisterSet := ⟨union⟩

/-- Whether every member of `s` is in `t`. -/
def isSubset (s t : RegisterSet) : Bool :=
  (s.words.zip t.words).all fun (a, b) => a &&& ~~~b == 0

/-- The number of bits that are set. -/
def size (s : RegisterSet) : Nat :=
  s.words.foldl (fun total word => total + word.toBitVec.cpop.toNat) 0

def isEmpty (s : RegisterSet) : Bool := s.words.all (· == 0)

/-- The members of the set among `candidates`, in their order. -/
def members (s : RegisterSet) (candidates : List Register) : List Register :=
  candidates.filter s.contains

/-- Adds the registers of a list in turn. -/
def insertAll (s : RegisterSet) : List Register → Except Panic RegisterSet
  | [] => .ok s
  | r :: rest =>
    match s.insert r with
    | .error p => .error p
    | .ok (_, s) => s.insertAll rest

/-- The set of the registers of a list. -/
def ofList (registers : List Register) : Except Panic RegisterSet := empty.insertAll registers

/-- Whether the bit of a number is set. -/
def has (s : RegisterSet) (n : Nat) : Bool := s.words[n / 64]?.any (·.toBitVec.getLsbD (n % 64))

/-! ### Words and masks -/

theorem slot?_of_lt {r : Register} (inside : r.number.toNat < bound) :
    slot? r = some (wordOf r.number.toNat inside, 1 <<< (r.number.toUInt64 % 64)) :=
  dif_pos inside

theorem slot?_of_le {r : Register} (outside : bound ≤ r.number.toNat) : slot? r = none :=
  dif_neg (Nat.not_lt.mpr outside)

/-- The mask of a number has one bit, at the place of the number in its word. -/
theorem getLsbD_mask (n : UInt16) (i : Nat) :
    ((1 : UInt64) <<< (n.toUInt64 % 64)).toBitVec.getLsbD i = decide (n.toNat % 64 = i) := by
  have amount : ((n.toUInt64 % 64).toBitVec % 64#64).toNat = n.toNat % 64 := by simp
  have small : n.toNat % 64 < 64 := Nat.mod_lt _ (by decide)
  rw [UInt64.toBitVec_shiftLeft]
  show ((1#64) <<< ((n.toUInt64 % 64).toBitVec % 64#64).toNat).getLsbD i = _
  rw [amount, ← BitVec.twoPow_eq, BitVec.getLsbD_twoPow, decide_eq_true small, Bool.true_and]

/-- A word under the mask of a number is zero if the number's bit is not set. -/
theorem and_mask_beq_zero (word : UInt64) (n : UInt16) :
    (word &&& 1 <<< (n.toUInt64 % 64) == 0) = !word.toBitVec.getLsbD (n.toNat % 64) := by
  rw [Bool.eq_iff_iff, beq_iff_eq, ← UInt64.toBitVec_inj, UInt64.toBitVec_and, Bool.not_eq_true']
  constructor
  · intro zero
    have bit := congrArg (BitVec.getLsbD · (n.toNat % 64)) zero
    simp only [BitVec.getLsbD_and, getLsbD_mask] at bit
    simpa using bit
  · intro clear
    refine BitVec.eq_of_getLsbD_eq fun i inside => ?_
    rw [BitVec.getLsbD_and, getLsbD_mask]
    by_cases own : n.toNat % 64 = i
    · subst own
      simp [clear]
    · simp [own]

theorem has_of_lt (s : RegisterSet) {n : Nat} (inside : n < bound) :
    s.has n = s.words[wordOf n inside].toBitVec.getLsbD (n % 64) := by
  have word : n / 64 < 2 := (wordOf n inside).isLt
  rw [has, Vector.getElem?_eq_getElem word, Option.any_some]
  rfl

/-- No number from the bound on is a member. -/
theorem has_of_le (s : RegisterSet) {n : Nat} (outside : bound ≤ n) : s.has n = false := by
  rw [has, Vector.getElem?_eq_none ((Nat.le_div_iff_mul_le (by decide)).mpr outside)]
  rfl

/-- Sets with the same members are equal. -/
theorem ext_has {s t : RegisterSet} (same : ∀ n, s.has n = t.has n) : s = t := by
  obtain ⟨first⟩ := s
  obtain ⟨second⟩ := t
  refine congrArg mk (Vector.ext fun i inside => UInt64.toBitVec_inj.mp ?_)
  refine BitVec.eq_of_getLsbD_eq fun j small => ?_
  have word : (64 * i + j) / 64 = i := by omega
  have place : (64 * i + j) % 64 = j := by omega
  have low : 64 * i + j < bound := by
    unfold bound
    omega
  have bits := same (64 * i + j)
  rw [has_of_lt _ low, has_of_lt _ low] at bits
  simpa only [Fin.getElem_fin, wordOf, word, place] using bits

/-- Where the word of a number is replaced, the new word counts for all numbers of that word. -/
theorem has_set (s : RegisterSet) {m : Nat} (inside : m < bound) (word : UInt64) (n : Nat) :
    has ⟨s.words.set (wordOf m inside) word⟩ n =
      if m / 64 = n / 64 then word.toBitVec.getLsbD (n % 64) else s.has n := by
  simp only [has, wordOf, Vector.getElem?_set]
  split <;> rfl

/-! ### Membership after each operation -/

theorem contains_eq (s : RegisterSet) (r : Register) : s.contains r = s.has r.number.toNat := by
  rcases Nat.lt_or_ge r.number.toNat bound with inside | outside
  · simp only [contains, slot?_of_lt inside, bne, and_mask_beq_zero, Bool.not_not,
      has_of_lt s inside]
  · rw [contains, slot?_of_le outside, has_of_le s outside]

@[simp] theorem has_empty (n : Nat) : (∅ : RegisterSet).has n = false := by
  show ((Vector.replicate 2 (0 : UInt64))[n / 64]?).any _ = false
  rw [Vector.getElem?_replicate]
  split <;> simp

@[simp] theorem has_union (s t : RegisterSet) (n : Nat) : (s ∪ t).has n = (s.has n || t.has n) := by
  rcases Nat.lt_or_ge n bound with inside | outside
  · rw [has_of_lt _ inside, has_of_lt _ inside, has_of_lt _ inside]
    show ((Vector.zipWith (· ||| ·) s.words t.words)[wordOf n inside]).toBitVec.getLsbD _ = _
    rw [Fin.getElem_fin, Vector.getElem_zipWith, UInt64.toBitVec_or, BitVec.getLsbD_or]
    rfl
  · rw [has_of_le _ outside, has_of_le _ outside, has_of_le _ outside]
    rfl

/-- A number below the bound can be inserted, and the answer says whether it was missing. -/
theorem exists_insert (s : RegisterSet) {r : Register} (inside : r.number.toNat < bound) :
    ∃ t, s.insert r = .ok (!s.contains r, t) := by
  simp only [insert, slot?_of_lt inside, and_mask_beq_zero, contains_eq, has_of_lt s inside]
  exact ⟨_, rfl⟩

theorem insert_of_le (s : RegisterSet) {r : Register} (outside : bound ≤ r.number.toNat) :
    s.insert r = .error (.registerOutOfRange r) := by
  rw [insert, slot?_of_le outside]

/-- An insertion that succeeds adds the register's number and nothing else. -/
theorem has_of_insert {s t : RegisterSet} {r : Register} {fresh : Bool}
    (inserted : s.insert r = .ok (fresh, t)) (n : Nat) :
    t.has n = (s.has n || decide (n = r.number.toNat)) := by
  rcases Nat.lt_or_ge r.number.toNat bound with inside | outside
  · simp only [insert, slot?_of_lt inside] at inserted
    cases inserted
    refine (has_set s inside _ n).trans ?_
    split
    · rename_i own
      have low : n < bound := by
        unfold bound at *
        omega
      have place : r.number.toNat % 64 = n % 64 ↔ n = r.number.toNat := by omega
      rw [UInt64.toBitVec_or, BitVec.getLsbD_or, getLsbD_mask, has_of_lt s low]
      simp only [Fin.getElem_fin, wordOf, own, place]
    · have other : n ≠ r.number.toNat := by grind
      simp [other]
  · rw [insert_of_le s outside] at inserted
    cases inserted

/-- Of the members, the one with that number goes. -/
theorem has_erase (s : RegisterSet) (r : Register) (n : Nat) :
    (s.erase r).has n = (s.has n && decide (n ≠ r.number.toNat)) := by
  rcases Nat.lt_or_ge r.number.toNat bound with inside | outside
  · simp only [erase, slot?_of_lt inside]
    refine (has_set s inside _ n).trans ?_
    split
    · rename_i own
      have small : n % 64 < 64 := Nat.mod_lt _ (by decide)
      have low : n < bound := by
        unfold bound at *
        omega
      have place : r.number.toNat % 64 = n % 64 ↔ n = r.number.toNat := by omega
      rw [UInt64.toBitVec_and, UInt64.toBitVec_not, BitVec.getLsbD_and, BitVec.getLsbD_not,
        getLsbD_mask, has_of_lt s low, decide_eq_true small, Bool.true_and, decide_not]
      simp only [Fin.getElem_fin, wordOf, own, place]
    · have other : n ≠ r.number.toNat := by grind
      simp [other]
  · rw [erase, slot?_of_le outside]
    by_cases other : n = r.number.toNat
    · rw [other, has_of_le s outside]
      rfl
    · simp [other]

end RegisterSet
end JitBridge
