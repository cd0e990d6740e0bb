import JitBridge.Proofs.Code.Execution
import Mathlib.Data.List.Chain
import Mathlib.Order.Bounds.Basic
import Mathlib.Order.CompletePartialOrder
import Mathlib.Order.Interval.Set.Disjoint

/-!
Where a cache puts its code. What it installs in a run, beside whatever else happens in the run, is
numbered without a gap and lies in one stretch of aligned pieces (`CodeSpace.exists_consecutive`),
each as long as the code needs and never empty. Pieces that follow each other are disjoint, so the
code of all handles is, whether it is still valid or not.
-/

namespace JitBridge

/-! ### Pieces -/

namespace CodeCache

/-- Code gets the least positive multiple of the alignment into which it fits. -/
theorem isLeast_span (length : Nat) :
    IsLeast {n | 0 < n ∧ alignment ∣ n ∧ length ≤ n} (span length) := by
  unfold span alignment
  constructor
  · refine ⟨by omega, Nat.dvd_mul_left _ _, by omega⟩
  · rintro n ⟨positive, ⟨k, rfl⟩, room⟩
    omega

theorem alignment_le_span (length : Nat) : alignment ≤ span length := by
  obtain ⟨⟨positive, whole, -⟩, -⟩ := isLeast_span length
  exact Nat.le_of_dvd positive whole

/-- The bytes set aside for artifacts. -/
def spans (artifacts : List Artifact) : Nat :=
  (artifacts.map fun artifact => span artifact.code.length).sum

theorem spans_cons (artifact : Artifact) (artifacts : List Artifact) :
    spans (artifact :: artifacts) = span artifact.code.length + spans artifacts := by
  simp [spans]

/-- Each artifact takes an aligned piece at least, so there are fewer of them than bytes. -/
theorem length_le_spans (artifacts : List Artifact) : artifacts.length ≤ spans artifacts := by
  induction artifacts with
  | nil => exact Nat.le_refl _
  | cons artifact artifacts ih =>
    have piece := alignment_le_span artifact.code.length
    rw [spans_cons, List.length_cons]
    unfold alignment at piece
    omega

/-- The counters move past the installed code, unless they wrap. -/
theorem toNat_counters_afterInstall (cache : CodeCache) (artifact : Artifact) (handle : Handle)
    (ids : cache.nextId.toNat + 1 < UInt64.size)
    (addresses : cache.nextAddress.toNat + span artifact.code.length < UInt64.size) :
    (cache.afterInstall artifact handle).nextId.toNat = cache.nextId.toNat + 1 ∧
      (cache.afterInstall artifact handle).nextAddress.toNat =
        cache.nextAddress.toNat + span artifact.code.length := by
  have small : span artifact.code.length < UInt64.size := by omega
  constructor
  · show (cache.nextId + 1).toNat = _
    rw [UInt64.toNat_add, UInt64.toNat_one]
    exact Nat.mod_eq_of_lt ids
  · show (cache.nextAddress + UInt64.ofNat (span artifact.code.length)).toNat = _
    rw [UInt64.toNat_add, UInt64.toNat_ofNat_of_lt' small]
    exact Nat.mod_eq_of_lt addresses

end CodeCache

namespace InstalledCode

/-- The addresses of the code's bytes. -/
def range (code : InstalledCode) : Set Nat :=
  Set.Ico code.entry.toNat (code.entry.toNat + code.artifact.code.length)

/-- Codes are numbered from `id` on, and lie in pieces that follow each other from `start` on. -/
def Consecutive : (id start : Nat) → List InstalledCode → Prop
  | _, _, [] => True
  | id, start, code :: codes => code.id.toNat = id ∧ code.entry.toNat = start ∧
      Consecutive (id + 1) (start + CodeCache.span code.artifact.code.length) codes

namespace Consecutive

variable {id start : Nat} {codes : List InstalledCode}

theorem map_id (consecutive : Consecutive id start codes) :
    codes.map (·.id.toNat) = List.range' id codes.length := by
  induction codes generalizing id start with
  | nil => rfl
  | cons code codes ih =>
    obtain ⟨numbered, -, rest⟩ := consecutive
    rw [List.map_cons, List.length_cons, List.range'_succ, numbered, ih rest]

/-- No code lies in front of the start. -/
theorem start_le (consecutive : Consecutive id start codes) :
    ∀ code ∈ codes, start ≤ code.entry.toNat := by
  induction codes generalizing id start with
  | nil => simp
  | cons first codes ih =>
    obtain ⟨-, begins, rest⟩ := consecutive
    intro code mem
    rcases List.mem_cons.mp mem with rfl | later
    · exact Nat.le_of_eq begins.symm
    · exact Nat.le_trans (Nat.le_add_right _ _) (ih rest code later)

/-- From an aligned start on, all code is aligned. -/
theorem aligned (consecutive : Consecutive id start codes) (whole : CodeCache.alignment ∣ start) :
    ∀ code ∈ codes, CodeCache.alignment ∣ code.entry.toNat := by
  induction codes generalizing id start with
  | nil => simp
  | cons first codes ih =>
    obtain ⟨-, begins, rest⟩ := consecutive
    intro code mem
    rcases List.mem_cons.mp mem with rfl | later
    · exact begins ▸ whole
    · have piece := (CodeCache.isLeast_span first.artifact.code.length).1.2.1
      exact ih rest (Nat.dvd_add whole piece) code later

/-- A piece ends before the later ones start. -/
theorem pairwise (consecutive : Consecutive id start codes) :
    codes.Pairwise fun code later =>
      code.entry.toNat + CodeCache.span code.artifact.code.length ≤ later.entry.toNat := by
  induction codes generalizing id start with
  | nil => exact .nil
  | cons code codes ih =>
    obtain ⟨-, begins, rest⟩ := consecutive
    apply List.Pairwise.cons _ (ih rest)
    intro later mem
    rw [begins]
    exact rest.start_le later mem

/-- The next piece starts where a piece ends. -/
theorem isChain (consecutive : Consecutive id start codes) :
    codes.IsChain fun code next =>
      next.entry.toNat = code.entry.toNat + CodeCache.span code.artifact.code.length := by
  induction codes generalizing id start with
  | nil => exact .nil
  | cons code codes ih =>
    obtain ⟨-, begins, rest⟩ := consecutive
    cases codes with
    | nil => exact .singleton code
    | cons next codes =>
      have follows : next.entry.toNat = _ := rest.2.1
      rw [← begins] at follows
      exact .cons_cons follows (ih rest)

end Consecutive

/-- Code that ends before other code starts shares no address with it. -/
theorem disjoint_range {code later : InstalledCode}
    (follows : code.entry.toNat + CodeCache.span code.artifact.code.length ≤ later.entry.toNat) :
    code.entry < later.entry ∧ Disjoint code.range later.range := by
  obtain ⟨⟨positive, -, room⟩, -⟩ := CodeCache.isLeast_span code.artifact.code.length
  constructor
  · rw [UInt64.lt_iff_toNat_lt]
    omega
  · rw [Set.disjoint_left]
    intro address inside outside
    have ends := inside.2
    have begins := outside.1
    omega

end InstalledCode

/-! ### The installations of one cache in a run -/

namespace CacheCall

/-- The artifact that is to be installed. -/
def artifact? : CacheCall → Option Artifact
  | install artifact => some artifact
  | _ => none

theorem artifact?_eq_some_iff {call : CacheCall} {artifact : Artifact} :
    call.artifact? = some artifact ↔ call = .install artifact := by
  cases call <;> simp [artifact?]

end CacheCall

namespace CodeSpace

/-- The artifact that a call installs in a cache. -/
def installed? (place : Nat) (call : Nat × CacheCall) : Option Artifact :=
  if call.1 = place then call.2.artifact? else none

/-- The artifacts that the calls of a run install in a cache, in order. -/
def installs (place : Nat) (calls : List (Nat × CacheCall)) : List Artifact :=
  calls.filterMap (installed? place)

/-- The handle that a cache gives out with the answer to a call. -/
def given? (place : Nat) (call : Nat × CacheCall) (answer : Option CacheAnswer) : Option Handle :=
  if call.1 = place then answer.bind CacheAnswer.installed? else none

/-- The handles that a cache gives out in a run, in order. -/
def handles (space : CodeSpace) (place : Nat) (calls : List (Nat × CacheCall)) : List Handle :=
  (calls.zip (space.answers calls)).filterMap fun answered => given? place answered.1 answered.2

/-- The code of the handles that a cache gives out in a run, as it is after the run. -/
def codesOf (space : CodeSpace) (place : Nat) (calls : List (Nat × CacheCall)) :
    List (Option InstalledCode) :=
  (space.handles place calls).map fun h => (space.after calls).codes[h]?.map (·.code)

theorem installs_cons (place : Nat) (call : Nat × CacheCall) (calls : List (Nat × CacheCall)) :
    installs place (call :: calls) = (installed? place call).toList ++ installs place calls := by
  rw [installs, List.filterMap_cons]
  cases installed? place call with
  | none => rfl
  | some artifact => rfl

theorem handles_cons (space : CodeSpace) (place : Nat) (call : Nat × CacheCall)
    (calls : List (Nat × CacheCall)) :
    space.handles place (call :: calls) =
      (given? place call (space.call call.1 call.2).1).toList ++
        (space.call call.1 call.2).2.handles place calls := by
  rw [handles, answers, List.zip_cons_cons, List.filterMap_cons]
  cases given? place call (space.call call.1 call.2).1 with
  | none => rfl
  | some h => rfl

variable {space : CodeSpace} {place : Nat} {cache : CodeCache}

section

variable (found : space.caches[place]? = some cache)

include found

/-- An installation puts the code behind all other code. -/
theorem call_install (artifact : Artifact) :
    space.call place (.install artifact) =
      (some (.installed space.codes.length),
        space.put place (cache.afterInstall artifact space.codes.length)
          (space.codes ++ [⟨cache.nextCode artifact, cache.executor⟩])) := by
  rw [call, answer_install found]
  rfl

/-- All other calls, and the calls on other caches, leave the counters of a cache as they are, and
make it give out no handle. -/
theorem call_of_no_install {call : Nat × CacheCall} (other : installed? place call = none) :
    given? place call (space.call call.1 call.2).1 = none ∧
      ∃ cache', (space.call call.1 call.2).2.caches[place]? = some cache' ∧
        cache'.nextId = cache.nextId ∧ cache'.nextAddress = cache.nextAddress := by
  obtain ⟨p, call⟩ := call
  rw [installed?] at other
  rw [given?]
  by_cases own : p = place
  · subst own
    rw [if_pos rfl] at other ⊢
    have quiet : call.isInstall = false := by
      cases call with
      | install artifact => cases other
      | _ => rfl
    rw [call_of_found found, caches_put_self found, Option.bind_some, CacheState.installed?_call,
      quiet]
    exact ⟨rfl, _, rfl, CacheState.counters_call_of_not_install _ quiet⟩
  · rw [if_neg own]
    refine ⟨rfl, cache, ?_, rfl, rfl⟩
    cases elsewhere : space.caches[p]? with
    | none => rw [call_of_missing elsewhere, found]
    | some acting => rw [call_of_found elsewhere, caches_put_of_ne _ own, found]

/-- The code that an installation adds keeps its number, its entry and its artifact throughout the
run that follows. -/
theorem exists_code_after_install (artifact : Artifact) (calls : List (Nat × CacheCall)) :
    ∃ code : InstalledCode,
      (((space.call place (.install artifact)).2.after calls).codes[space.codes.length]?.map
        (·.code)) = some code ∧
      code.id = cache.nextId ∧ code.entry = cache.nextAddress ∧ code.artifact = artifact := by
  have stored : (space.call place (.install artifact)).2.codes[space.codes.length]? =
      some ⟨cache.nextCode artifact, cache.executor⟩ := by
    rw [call_install found]
    exact List.getElem?_concat_length
  rw [getElem?_codes_after _ stored calls]
  exact ⟨_, rfl, Installation.id_endedIf .., Installation.entry_endedIf ..,
    Installation.artifact_endedIf ..⟩

end

/-- What a cache installs in a run is numbered and laid out from its counters on, if they do not
wrap. -/
theorem exists_consecutive (found : space.caches[place]? = some cache)
    (calls : List (Nat × CacheCall))
    (ids : cache.nextId.toNat + (installs place calls).length < UInt64.size)
    (addresses : cache.nextAddress.toNat + CodeCache.spans (installs place calls) < UInt64.size) :
    ∃ placed : List InstalledCode, space.codesOf place calls = placed.map some ∧
      placed.map (·.artifact) = installs place calls ∧
      InstalledCode.Consecutive cache.nextId.toNat cache.nextAddress.toNat placed := by
  induction calls generalizing space cache with
  | nil => exact ⟨[], rfl, rfl, trivial⟩
  | cons call calls ih =>
    rw [installs_cons] at ids addresses ⊢
    rw [codesOf, handles_cons, List.map_append]
    cases installed : installed? place call with
    | none =>
      obtain ⟨quiet, cache', found', sameId, sameAddress⟩ := call_of_no_install found installed
      rw [installed, Option.toList_none, List.nil_append] at ids addresses
      rw [← sameId] at ids
      rw [← sameAddress] at addresses
      obtain ⟨placed, stored, artifacts, consecutive⟩ := ih found' ids addresses
      rw [sameId, sameAddress] at consecutive
      rw [quiet]
      exact ⟨placed, stored, artifacts, consecutive⟩
    | some artifact =>
      obtain ⟨p, call⟩ := call
      have own : p = place ∧ call = .install artifact := by
        rw [installed?] at installed
        split at installed
        · rename_i same
          exact ⟨same, CacheCall.artifact?_eq_some_iff.mp installed⟩
        · cases installed
      obtain ⟨rfl, rfl⟩ := own
      rw [installed, Option.toList_some, List.singleton_append] at ids addresses
      rw [List.length_cons] at ids
      rw [CodeCache.spans_cons] at addresses
      obtain ⟨code, stored, id, entry, same⟩ := exists_code_after_install found artifact calls
      obtain ⟨nextId, nextAddress⟩ := CodeCache.toNat_counters_afterInstall cache artifact
        space.codes.length (by omega) (by omega)
      have found' : (space.call p (.install artifact)).2.caches[p]? =
          some (cache.afterInstall artifact space.codes.length) := by
        rw [call_install found]
        exact caches_put_self found _ _
      obtain ⟨placed, rest, artifacts, consecutive⟩ := ih found' (by omega) (by omega)
      have handle : given? p (p, .install artifact) (space.call p (.install artifact)).1 =
          some space.codes.length := by
        rw [call_install found, given?, if_pos rfl]
        rfl
      rw [nextId, nextAddress] at consecutive
      refine ⟨code :: placed, ?_, ?_, ?_⟩
      · rw [handle, List.map_cons, ← rest]
        exact congrArg (· :: _) stored
      · rw [List.map_cons, artifacts, same]
        rfl
      · exact ⟨congrArg _ id, congrArg _ entry, by rw [same]; exact consecutive⟩

/-- Where a cache puts what it installs in a run, whatever else happens in the run, on this cache or
on others: its codes are numbered from 1 on; they start at multiples of 32 from the base address on,
each one at another address and behind the bytes of all earlier ones, even if those have none or are
no longer valid; and from one to the next it is the least positive multiple of 32 that holds the
first one's bytes. -/
theorem addresses_along_run (caches : List (Target × Option Decoder)) {place : Nat}
    (within : place < caches.length) (calls : List (Nat × CacheCall))
    (fits : CodeCache.spans (installs place calls) < 2 ^ 64 - 0x7f0000000000) :
    ∃ placed : List InstalledCode, (start caches).codesOf place calls = placed.map some ∧
      placed.map (·.artifact) = installs place calls ∧
      placed.map (·.id.toNat) = List.range' 1 (installs place calls).length ∧
      (∀ code ∈ placed, 32 ∣ code.entry.toNat ∧ 0x7f0000000000 ≤ code.entry.toNat) ∧
      (placed.Pairwise fun code later =>
        code.entry < later.entry ∧ Disjoint code.range later.range) ∧
      placed.IsChain fun code next =>
        IsLeast {n | 0 < n ∧ 32 ∣ n ∧ code.artifact.code.length ≤ n}
          (next.entry.toNat - code.entry.toNat) := by
  have limit : UInt64.size = 2 ^ 64 := rfl
  have many := CodeCache.length_le_spans (installs place calls)
  obtain ⟨cache, found, id, address⟩ : ∃ cache : CodeCache,
      (start caches).caches[place]? = some cache ∧ cache.nextId.toNat = 1 ∧
        cache.nextAddress.toNat = 0x7f0000000000 := by
    rw [start, List.getElem?_map, List.getElem?_eq_getElem within]
    exact ⟨_, rfl, rfl, rfl⟩
  obtain ⟨placed, stored, artifacts, consecutive⟩ :=
    exists_consecutive found calls (by omega) (by omega)
  rw [id, address] at consecutive
  refine ⟨placed, stored, artifacts, ?_, ?_, ?_, ?_⟩
  · rw [consecutive.map_id, ← artifacts, List.length_map]
  · intro code mem
    exact ⟨consecutive.aligned (by decide) code mem, consecutive.start_le code mem⟩
  · exact consecutive.pairwise.imp InstalledCode.disjoint_range
  · apply List.IsChain.imp _ consecutive.isChain
    intro code next follows
    rw [follows, Nat.add_sub_cancel_left]
    exact CodeCache.isLeast_span _

/-- Two empty artifacts, of which the first is invalidated, and one of 33 bytes: they are numbered
beside the code of another cache, and no two of them share an address. -/
theorem addresses_along_run_of_empty_code :
    let caches := [(Target.ofArchitecture Amd64.architecture 16 true, none),
      (Target.ofArchitecture AArch64.architecture 16 true, none)]
    let calls : List (Nat × CacheCall) :=
      [(0, .install ⟨"first", [], 0, none⟩), (1, .install ⟨"other", [0xC3], 0, none⟩),
        (0, .invalidate 0), (0, .install ⟨"second", [], 0, none⟩),
        (0, .install ⟨"third", List.replicate 33 0x90, 0, none⟩)]
    0 < caches.length ∧ CodeCache.spans (installs 0 calls) < 2 ^ 64 - 0x7f0000000000 ∧
    ∃ first second third : InstalledCode,
      (start caches).codesOf 0 calls = [some first, some second, some third] ∧
      third.id.toNat = 3 ∧ first.entry < second.entry ∧ Disjoint second.range third.range := by
  intro caches calls
  have within : 0 < caches.length := by decide
  have fits : CodeCache.spans (installs 0 calls) < 2 ^ 64 - 0x7f0000000000 := by decide
  obtain ⟨placed, stored, artifacts, ids, -, pairwise, -⟩ :=
    addresses_along_run caches within calls fits
  have three : placed.length = 3 := by
    rw [← List.length_map, artifacts]
    rfl
  obtain ⟨first, second, third, rfl⟩ := List.length_eq_three.mp three
  simp only [List.pairwise_cons, List.mem_cons, List.not_mem_nil, or_false, forall_eq_or_imp,
    forall_eq] at pairwise
  obtain ⟨⟨⟨before, -⟩, -⟩, ⟨-, apart⟩, -⟩ := pairwise
  have numbered : [first.id.toNat, second.id.toNat, third.id.toNat] = [1, 2, 3] := ids
  simp only [List.cons.injEq, and_true] at numbered
  exact ⟨within, fits, first, second, third, stored, numbered.2.2, before, apart⟩

end CodeSpace
end JitBridge
