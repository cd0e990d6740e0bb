import JitBridge.Code.Cache

/-!
What a code cache knows of the code that was installed in it. Whether code is valid is part of its
handle, and whether it is live is part of the cache; `CodeCache.Tracks` says that the two agree for
the handles that the cache gave out, whatever other caches put into the list of all code. Installing
code and invalidating own code keep them in agreement.
-/

namespace JitBridge

/-- Whether a handle stands for valid code. -/
def Codes.isValid (codes : Codes) (handle : Handle) : Bool :=
  codes[handle]?.any (·.code.valid)

namespace InstalledCode

@[simp] theorem id_invalidate (code : InstalledCode) : code.invalidate.id = code.id := by
  unfold invalidate
  split <;> rfl

@[simp] theorem entry_invalidate (code : InstalledCode) : code.invalidate.entry = code.entry := by
  unfold invalidate
  split <;> rfl

@[simp] theorem valid_invalidate (code : InstalledCode) : code.invalidate.valid = false := by
  unfold invalidate
  split
  · rfl
  · rename_i invalid
    exact Bool.eq_false_iff.mpr invalid

end InstalledCode

namespace CodeCache

variable {cache : CodeCache} {codes : Codes} {own : List Handle}

/-! ### Answers after each operation -/

theorem answer_install (cache : CodeCache) (codes : Codes) (artifact : Artifact) :
    (cache.install codes artifact).answer =
      (codes.length, cache.afterInstall artifact codes.length,
        codes ++ [⟨cache.nextCode artifact, cache.executor⟩]) := rfl

theorem answer_invalidate (cache : CodeCache) {handle : Handle} {installation : Installation}
    (found : codes[handle]? = some installation) :
    (cache.invalidate codes handle).answer =
      (installation.code.valid, { cache with live := cache.live.erase installation.code.id },
        codes.set handle { installation with code := installation.code.invalidate }) := by
  simp only [invalidate, found]
  by_cases valid : installation.code.valid = true
  · rw [if_pos valid]
    rfl
  · rw [if_neg valid]
    rfl

/-- Code is found under its number from its installation on. -/
theorem lookup_afterInstall (cache : CodeCache) (artifact : Artifact) (handle : Handle)
    (id : UInt64) :
    (cache.afterInstall artifact handle).lookup id =
      if id = cache.nextId then some handle else cache.lookup id :=
  cache.live.get?_insert cache.nextId id handle

theorem lookup_erase (cache : CodeCache) (erased id : UInt64) :
    CodeCache.lookup { cache with live := cache.live.erase erased } id =
      if id = erased then none else cache.lookup id :=
  cache.live.get?_erase erased id

/-- The cache and the handles `own` that it gave out, in order, agree on which code is live. -/
structure Tracks (cache : CodeCache) (codes : Codes) (own : List Handle) : Prop where
  /-- No handle is given out twice. -/
  distinct : own.Nodup
  /-- Code is numbered from 1 on. -/
  numbered : ∀ (k : Nat) (h : Handle), own[k]? = some h → ∃ installation : Installation,
    codes[h]? = some installation ∧ installation.code.id.toNat = k + 1
  nextId : cache.nextId.toNat = own.length + 1
  /-- The code found is the valid code. -/
  found_iff : ∀ (id : UInt64) (h : Handle), cache.lookup id = some h ↔
    h ∈ own ∧ ∃ installation : Installation,
      codes[h]? = some installation ∧ installation.code.id = id ∧ installation.code.valid = true
  count : cache.installedCount = own.countP (Codes.isValid codes)

namespace Tracks

theorem exists_installation (tracks : cache.Tracks codes own) {h : Handle} (mem : h ∈ own) :
    ∃ installation : Installation, codes[h]? = some installation ∧
      0 < installation.code.id.toNat ∧ installation.code.id.toNat ≤ own.length := by
  obtain ⟨k, found⟩ := List.mem_iff_getElem?.mp mem
  obtain ⟨within, -⟩ := List.getElem?_eq_some_iff.mp found
  obtain ⟨installation, stored, id⟩ := tracks.numbered k h found
  exact ⟨installation, stored, by omega, by omega⟩

theorem lt_length (tracks : cache.Tracks codes own) {h : Handle} (mem : h ∈ own) :
    h < codes.length := by
  obtain ⟨installation, stored, -⟩ := tracks.exists_installation mem
  exact (List.getElem?_eq_some_iff.mp stored).1

/-- Own code is told apart by its number. -/
theorem eq_of_id (tracks : cache.Tracks codes own) {g h : Handle} {i j : Installation}
    (gOwn : g ∈ own) (hOwn : h ∈ own) (gStored : codes[g]? = some i) (hStored : codes[h]? = some j)
    (same : i.code.id = j.code.id) : g = h := by
  obtain ⟨k, gFound⟩ := List.mem_iff_getElem?.mp gOwn
  obtain ⟨l, hFound⟩ := List.mem_iff_getElem?.mp hOwn
  obtain ⟨i', gStored', gId⟩ := tracks.numbered k g gFound
  obtain ⟨j', hStored', hId⟩ := tracks.numbered l h hFound
  rw [gStored] at gStored'
  rw [hStored] at hStored'
  cases gStored'
  cases hStored'
  rw [same] at gId
  obtain rfl : k = l := by omega
  exact Option.some.inj (gFound.symm.trans hFound)

/-- The next number is not in use. -/
theorem lookup_nextId (tracks : cache.Tracks codes own) : cache.lookup cache.nextId = none := by
  rw [Option.eq_none_iff_forall_ne_some]
  intro h found
  obtain ⟨mem, installation, stored, id, -⟩ := (tracks.found_iff _ h).mp found
  obtain ⟨installation', stored', -, small⟩ := tracks.exists_installation mem
  rw [stored] at stored'
  cases stored'
  rw [id, tracks.nextId] at small
  omega

/-- A new cache gave out no handle. -/
theorem of_new (target : Target) (decoder : Option Decoder) (codes : Codes) :
    Tracks { target, decoder } codes [] where
  distinct := List.nodup_nil
  numbered := by simp
  nextId := rfl
  found_iff := by simp [lookup, Table.get?_empty]
  count := rfl

/-- Attaching an executor does not touch the live code. -/
theorem attach (tracks : cache.Tracks codes own) (executor : Executor) :
    (cache.attach executor).2.Tracks codes own := by
  rw [CodeCache.attach]
  cases cache.executor with
  | some first => exact tracks
  | none => exact ⟨tracks.distinct, tracks.numbered, tracks.nextId, tracks.found_iff, tracks.count⟩

/-- The place of the next handle is new. -/
theorem length_not_mem (tracks : cache.Tracks codes own) : codes.length ∉ own :=
  fun mem => Nat.lt_irrefl _ (tracks.lt_length mem)

/-- What is stored under own handles stays where it is when code is added. -/
theorem getElem?_append (tracks : cache.Tracks codes own) {h : Handle} (mem : h ∈ own)
    (added : Installation) : (codes ++ [added])[h]? = codes[h]? :=
  List.getElem?_append_left (tracks.lt_length mem)

theorem isValid_append (tracks : cache.Tracks codes own) {h : Handle} (mem : h ∈ own)
    (added : Installation) : Codes.isValid (codes ++ [added]) h = Codes.isValid codes h := by
  rw [Codes.isValid, Codes.isValid, tracks.getElem?_append mem]

variable (tracks : cache.Tracks codes own) (artifact : Artifact)

include tracks

theorem numbered_install (k : Nat) (h : Handle) (found : (own ++ [codes.length])[k]? = some h) :
    ∃ installation : Installation,
      (codes ++ [⟨cache.nextCode artifact, cache.executor⟩])[h]? = some installation ∧
        installation.code.id.toNat = k + 1 := by
  rcases Nat.lt_or_ge k own.length with within | beyond
  · rw [List.getElem?_append_left within] at found
    rw [tracks.getElem?_append (List.mem_of_getElem? found)]
    exact tracks.numbered k h found
  · rw [List.getElem?_append_right beyond, List.getElem?_singleton] at found
    split at found
    · cases found
      refine ⟨_, List.getElem?_concat_length, ?_⟩
      rw [nextCode, tracks.nextId]
      omega
    · cases found

/-- Installing finds the new code under the next number, and all other code as before. -/
theorem found_iff_install (id : UInt64) (h : Handle) :
    (cache.afterInstall artifact codes.length).lookup id = some h ↔
      h ∈ own ++ [codes.length] ∧ ∃ installation : Installation,
        (codes ++ [⟨cache.nextCode artifact, cache.executor⟩])[h]? = some installation ∧
          installation.code.id = id ∧ installation.code.valid = true := by
  rw [lookup_afterInstall, List.mem_append, List.mem_singleton]
  by_cases mem : h ∈ own
  · have old : h ≠ codes.length := fun same => tracks.length_not_mem (same ▸ mem)
    rw [tracks.getElem?_append mem]
    by_cases next : id = cache.nextId
    · subst next
      have missing := tracks.lookup_nextId
      constructor
      · intro found
        rw [if_pos rfl] at found
        exact absurd (Option.some.inj found).symm old
      · rintro ⟨-, stored⟩
        rw [(tracks.found_iff _ h).mpr ⟨mem, stored⟩] at missing
        cases missing
    · rw [if_neg next, tracks.found_iff id h]
      simp only [mem, old, or_false]
  · constructor
    · intro found
      split at found
      · rename_i next
        cases found
        exact ⟨.inr rfl, _, List.getElem?_concat_length, next.symm, rfl⟩
      · exact absurd ((tracks.found_iff id h).mp found).1 mem
    · rintro ⟨old | rfl, installation, stored, next, -⟩
      · exact absurd old mem
      · rw [List.getElem?_concat_length] at stored
        cases stored
        exact if_pos next.symm

/-- The new code is live. -/
theorem installedCount_install (handle : Handle) :
    (cache.afterInstall artifact handle).installedCount = cache.installedCount + 1 :=
  cache.live.size_insert tracks.lookup_nextId handle

theorem count_install :
    (cache.afterInstall artifact codes.length).installedCount =
      (own ++ [codes.length]).countP
        (Codes.isValid (codes ++ [⟨cache.nextCode artifact, cache.executor⟩])) := by
  have kept : own.countP (Codes.isValid (codes ++ [⟨cache.nextCode artifact, cache.executor⟩])) =
      own.countP (Codes.isValid codes) :=
    List.countP_congr fun h mem => by rw [tracks.isValid_append mem]
  have new : Codes.isValid (codes ++ [⟨cache.nextCode artifact, cache.executor⟩]) codes.length =
      true := by
    rw [Codes.isValid, List.getElem?_concat_length]
    rfl
  rw [tracks.installedCount_install, List.countP_append, List.countP_singleton, new, if_pos rfl,
    kept, tracks.count]

/-- Installing gives out the place at the end of the list. -/
theorem install (room : own.length + 2 < UInt64.size) :
    (cache.afterInstall artifact codes.length).Tracks
      (codes ++ [⟨cache.nextCode artifact, cache.executor⟩]) (own ++ [codes.length]) where
  distinct := List.nodup_append.mpr ⟨tracks.distinct, by simp, fun h mem g new same =>
    tracks.length_not_mem (List.mem_singleton.mp new ▸ same ▸ mem)⟩
  numbered := tracks.numbered_install artifact
  nextId := by
    rw [afterInstall, UInt64.toNat_add, tracks.nextId, List.length_append, List.length_singleton]
    exact Nat.mod_eq_of_lt (by simpa using room)
  found_iff := tracks.found_iff_install artifact
  count := tracks.count_install artifact

/-! ### Invalidating own code -/

variable {handle : Handle} {installation : Installation} (mem : handle ∈ own)
  (stored : codes[handle]? = some installation)

include mem

theorem getElem?_set_self (changed : Installation) :
    (codes.set handle changed)[handle]? = some changed := by
  rw [List.getElem?_set_self (tracks.lt_length mem)]

include stored

/-- Own code is found under its number while it is valid. -/
theorem isSome_lookup_id :
    (cache.lookup installation.code.id).isSome = installation.code.valid := by
  cases valid : installation.code.valid with
  | true =>
    rw [(tracks.found_iff _ handle).mpr ⟨mem, installation, stored, rfl, valid⟩]
    rfl
  | false =>
    rw [Option.isSome_eq_false_iff, Option.isNone_iff_eq_none, Option.eq_none_iff_forall_ne_some]
    intro other found
    obtain ⟨mem', installation', stored', id, valid'⟩ := (tracks.found_iff _ other).mp found
    obtain rfl := tracks.eq_of_id mem' mem stored' stored id
    rw [stored] at stored'
    cases stored'
    rw [valid] at valid'
    cases valid'

/-- Invalidating valid code takes one off the number of live codes. -/
theorem installedCount_erase :
    CodeCache.installedCount { cache with live := cache.live.erase installation.code.id } +
      (if installation.code.valid then 1 else 0) = cache.installedCount := by
  have erased := cache.live.size_erase installation.code.id
  have found : (cache.live.get? installation.code.id).isSome = installation.code.valid :=
    tracks.isSome_lookup_id mem stored
  rw [found] at erased
  exact erased

/-- The other own code stays as valid as it was. -/
theorem countP_isValid_set :
    own.countP (Codes.isValid
        (codes.set handle { installation with code := installation.code.invalidate })) +
      (if installation.code.valid then 1 else 0) = own.countP (Codes.isValid codes) := by
  have split := List.perm_cons_erase mem
  have kept : (own.erase handle).countP (Codes.isValid
        (codes.set handle { installation with code := installation.code.invalidate })) =
      (own.erase handle).countP (Codes.isValid codes) := by
    refine List.countP_congr fun other mem' => ?_
    have other_ne : handle ≠ other :=
      fun same => tracks.distinct.not_mem_erase (same ▸ mem')
    rw [Codes.isValid, Codes.isValid, List.getElem?_set_ne other_ne]
  have before : Codes.isValid codes handle = installation.code.valid := by
    rw [Codes.isValid, stored]
    rfl
  have after : Codes.isValid
      (codes.set handle { installation with code := installation.code.invalidate }) handle =
        false := by
    rw [Codes.isValid, tracks.getElem?_set_self mem]
    exact installation.code.valid_invalidate
  rw [split.countP_eq, split.countP_eq, List.countP_cons, List.countP_cons, kept, before, after]
  simp

theorem found_iff_invalidate (id : UInt64) (h : Handle) :
    CodeCache.lookup { cache with live := cache.live.erase installation.code.id } id = some h ↔
      h ∈ own ∧ ∃ changed : Installation,
        (codes.set handle { installation with code := installation.code.invalidate })[h]? =
          some changed ∧ changed.code.id = id ∧ changed.code.valid = true := by
  rw [lookup_erase]
  by_cases same : h = handle
  · subst same
    constructor
    · intro found
      split at found
      · cases found
      · rename_i other
        obtain ⟨-, installation', stored', id', -⟩ := (tracks.found_iff id h).mp found
        rw [stored] at stored'
        cases stored'
        exact absurd id'.symm other
    · rintro ⟨-, changed, stored', -, valid⟩
      rw [tracks.getElem?_set_self mem] at stored'
      cases stored'
      rw [installation.code.valid_invalidate] at valid
      cases valid
  · rw [List.getElem?_set_ne fun eq => same eq.symm, ← tracks.found_iff id h]
    split
    · rename_i key
      constructor
      · intro found
        cases found
      · intro found
        obtain ⟨mem', installation', stored', id', -⟩ := (tracks.found_iff id h).mp found
        exact absurd (tracks.eq_of_id mem' mem stored' stored (id'.trans key)) same
    · exact Iff.rfl

/-- Invalidating own code keeps the cache in agreement with it. -/
theorem invalidate :
    Tracks { cache with live := cache.live.erase installation.code.id }
      (codes.set handle { installation with code := installation.code.invalidate }) own where
  distinct := tracks.distinct
  numbered := by
    intro k h found
    obtain ⟨installation', stored', id⟩ := tracks.numbered k h found
    by_cases same : h = handle
    · subst same
      rw [stored] at stored'
      cases stored'
      exact ⟨_, tracks.getElem?_set_self mem _, by rw [InstalledCode.id_invalidate, id]⟩
    · rw [List.getElem?_set_ne fun eq => same eq.symm]
      exact ⟨installation', stored', id⟩
  nextId := tracks.nextId
  found_iff := tracks.found_iff_invalidate mem stored
  count := by
    have live := tracks.installedCount_erase mem stored
    have valid := tracks.countP_isValid_set mem stored
    have count := tracks.count
    omega

end Tracks
end CodeCache
end JitBridge
