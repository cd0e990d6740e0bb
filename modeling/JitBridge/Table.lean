/-!
Finite maps as lists of pairs with distinct keys. Only the answers of `get?` and the number of
entries matter; the order of the entries does not. `get?_insert` and `get?_erase` say what the
operations do to the answers, `size_insert` and `size_erase` what they do to the number of entries.
-/

namespace JitBridge

/-- A finite map; no key occurs twice. -/
structure Table (κ α : Type) where
  entries : List (κ × α)
  distinct : (entries.map (·.1)).Nodup
deriving DecidableEq

namespace Table

variable {κ α : Type}

def empty : Table κ α := ⟨[], List.nodup_nil⟩

instance : EmptyCollection (Table κ α) := ⟨empty⟩

/-- The number of keys. -/
def size (t : Table κ α) : Nat := t.entries.length

def toList (t : Table κ α) : List (κ × α) := t.entries

variable [DecidableEq κ]

/-- The value at a key. -/
def get? (t : Table κ α) (key : κ) : Option α := t.entries.lookup key

/-- The map without a key. -/
def erase (t : Table κ α) (key : κ) : Table κ α where
  entries := t.entries.filter (·.1 != key)
  distinct := t.distinct.sublist (List.filter_sublist.map _)

theorem not_mem_keys_erase (t : Table κ α) (key : κ) :
    key ∉ (t.erase key).entries.map (·.1) := by
  simp [erase]

/-- The map with a value put at a key, in place of one that may be there. -/
def insert (t : Table κ α) (key : κ) (value : α) : Table κ α where
  entries := (key, value) :: (t.erase key).entries
  distinct := List.nodup_cons.mpr ⟨t.not_mem_keys_erase key, (t.erase key).distinct⟩

@[simp] theorem get?_empty (key : κ) : (∅ : Table κ α).get? key = none := rfl

theorem get?_erase (t : Table κ α) (key other : κ) :
    (t.erase key).get? other = if other = key then none else t.get? other := by
  simp only [get?, erase]
  induction t.entries with
  | nil => simp
  | cons entry rest ih => grind

theorem get?_insert (t : Table κ α) (key other : κ) (value : α) :
    (t.insert key value).get? other = if other = key then some value else t.get? other := by
  by_cases h : other = key
  · simp [get?, insert, h]
  · have erased := get?_erase t key other
    have passed : (other == key) = false := beq_eq_false_iff_ne.mpr h
    simpa only [get?, insert, List.lookup_cons, passed, if_neg h] using erased

theorem length_filter_key {entries : List (κ × α)} (distinct : (entries.map (·.1)).Nodup)
    (key : κ) :
    (entries.filter (·.1 != key)).length + (if (entries.lookup key).isSome then 1 else 0) =
      entries.length := by
  induction entries with
  | nil => rfl
  | cons entry rest ih =>
    obtain ⟨first, value⟩ := entry
    rw [List.map_cons, List.nodup_cons] at distinct
    obtain ⟨alone, distinct⟩ := distinct
    by_cases own : first = key
    · have kept : rest.filter (·.1 != key) = rest := by
        refine List.filter_eq_self.mpr fun other mem => bne_iff_ne.mpr fun same => alone ?_
        rw [own, ← same]
        exact List.mem_map.mpr ⟨other, mem, rfl⟩
      simp [own, kept]
    · have kept : (first != key) = true := bne_iff_ne.mpr own
      have passed : (key == first) = false := beq_eq_false_iff_ne.mpr fun same => own same.symm
      have ih := ih distinct
      simp only [List.filter_cons, kept, List.lookup_cons, passed, if_true, List.length_cons]
      omega

/-- Taking a key out makes the map smaller by the one entry that it may have had. -/
theorem size_erase (t : Table κ α) (key : κ) :
    (t.erase key).size + (if (t.get? key).isSome then 1 else 0) = t.size :=
  length_filter_key t.distinct key

/-- A new key makes the map larger by one entry. -/
theorem size_insert (t : Table κ α) {key : κ} (fresh : t.get? key = none) (value : α) :
    (t.insert key value).size = t.size + 1 := by
  have erased := t.size_erase key
  rw [fresh] at erased
  simp only [Option.isSome_none, Bool.false_eq_true, if_false, Nat.add_zero] at erased
  rw [← erased]
  rfl

/-- A value put at a key that has one makes the map no larger. -/
theorem size_insert_of_some (t : Table κ α) {key : κ} {old : α} (found : t.get? key = some old)
    (value : α) : (t.insert key value).size = t.size := by
  have erased := t.size_erase key
  rw [found] at erased
  exact erased

theorem mem_toList_iff (t : Table κ α) {key : κ} {value : α} :
    (key, value) ∈ t.toList ↔ t.get? key = some value := by
  obtain ⟨entries, distinct⟩ := t
  simp only [toList, get?]
  induction entries with
  | nil => simp
  | cons entry rest ih =>
    obtain ⟨first, found⟩ := entry
    rw [List.map_cons, List.nodup_cons] at distinct
    obtain ⟨alone, distinct⟩ := distinct
    rw [List.mem_cons, List.lookup_cons]
    by_cases own : key = first
    · have absent : (key, value) ∉ rest := fun mem =>
        alone (List.mem_map.mpr ⟨(key, value), mem, own⟩)
      simp [own, own ▸ absent, eq_comm]
    · have passed : (key == first) = false := beq_eq_false_iff_ne.mpr own
      simp [own, passed, ih distinct]

end Table
end JitBridge
