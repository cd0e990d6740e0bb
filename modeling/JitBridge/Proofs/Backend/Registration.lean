import JitBridge.Backend.Registry
import JitBridge.Proofs.Backend.Builtin
import Mathlib.Data.Finset.Card
import Mathlib.Data.Finset.Dedup

/-!
Registration of backends, one call after another, where whoever calls may catch a panic. A call for
an architecture that has a backend is rejected after the table was written
(`BackendRegistry.answer_register`), so the registry holds the backend that was registered last,
accepted or not (`BackendRegistry.get?_afterCalls`), where the first was to stay.

`BackendRegistry.rejected_call_replaces` says what a registry answers after any history, and what a
rejected call does to it.
-/

namespace JitBridge

namespace BackendRegistry

/-! ### One call -/

section

variable (registry : BackendRegistry) (backend : Backend)

/-- The table is written whether the call is accepted or not. -/
theorem answer_register :
    (registry.register backend).answer =
      (if (registry.get? backend.arch).isSome then .error (.backendExists backend.arch) else .ok (),
        ⟨registry.backends.insert backend.arch backend⟩) := by
  unfold register
  cases registry.get? backend.arch with
  | some old => rfl
  | none => rfl

theorem get?_register (arch : Arch) :
    (registry.register backend).answer.2.get? arch =
      if arch = backend.arch then some backend else registry.get? arch := by
  rw [answer_register]
  exact registry.backends.get?_insert backend.arch arch backend

end

/-! ### Histories -/

/-- The registry after calls the panics of which are caught. -/
def afterCalls (registry : BackendRegistry) : List Backend → BackendRegistry
  | [] => registry
  | backend :: calls => (registry.register backend).answer.2.afterCalls calls

/-- The backend that was registered last for an architecture. -/
def latest? (arch : Arch) (calls : List Backend) : Option Backend :=
  calls.reverse.find? (·.arch == arch)

theorem latest?_cons (arch : Arch) (backend : Backend) (calls : List Backend) :
    latest? arch (backend :: calls) =
      (latest? arch calls).or (if arch = backend.arch then some backend else none) := by
  rw [latest?, List.reverse_cons, List.find?_append, List.find?_singleton]
  by_cases own : backend.arch = arch
  · simp [latest?, own]
  · simp [latest?, own, Ne.symm own]

theorem latest?_isSome_iff {arch : Arch} {calls : List Backend} :
    (latest? arch calls).isSome ↔ ∃ earlier ∈ calls, earlier.arch = arch := by
  simp only [latest?, List.find?_isSome, List.mem_reverse, beq_iff_eq]

theorem get?_afterCalls (registry : BackendRegistry) (calls : List Backend) (arch : Arch) :
    (registry.afterCalls calls).get? arch = (latest? arch calls).or (registry.get? arch) := by
  induction calls generalizing registry with
  | nil => rfl
  | cons backend calls ih =>
    rw [afterCalls, ih, get?_register, latest?_cons, Option.or_assoc]
    by_cases own : arch = backend.arch
    · rw [if_pos own, if_pos own, Option.some_or]
    · rw [if_neg own, if_neg own, Option.none_or]

/-- A registry that was empty at first holds what was registered last. -/
theorem get?_afterCalls_empty (calls : List Backend) (arch : Arch) :
    (afterCalls {} calls).get? arch = latest? arch calls := by
  rw [get?_afterCalls]
  exact Option.or_none

/-- There are as many entries as there are architectures with a backend. -/
theorem size_afterCalls_empty (calls : List Backend) :
    (afterCalls {} calls).size = (calls.map (·.arch)).toFinset.card := by
  let registry := afterCalls {} calls
  have keys : (registry.toList.map (·.1)).toFinset = (calls.map (·.arch)).toFinset := by
    ext arch
    rw [List.mem_toFinset, List.mem_toFinset, List.mem_map, List.mem_map,
      ← latest?_isSome_iff, ← get?_afterCalls_empty, Option.isSome_iff_exists]
    constructor
    · rintro ⟨⟨own, backend⟩, mem, rfl⟩
      exact ⟨backend, registry.backends.mem_toList_iff.mp mem⟩
    · rintro ⟨backend, found⟩
      exact ⟨(arch, backend), registry.backends.mem_toList_iff.mpr found, rfl⟩
  have distinct : (registry.toList.map (·.1)).Nodup := registry.backends.distinct
  rw [← keys, List.toFinset_card_of_nodup distinct, List.length_map]
  rfl

/-- After any calls a registry that was empty at first has one entry for each architecture that a
backend was registered for, and answers with the backend that was registered last, as its entries
do. The next call panics exactly if one was registered for its architecture before. It leaves as
many entries then, and all answers for other architectures, but it puts its own backend in the place
of the former one, so it is without effect only where the two are the same. -/
theorem rejected_call_replaces (calls : List Backend) (next : Backend) :
    let registry := afterCalls {} calls
    let ended := (registry.register next).answer.1
    let left := (registry.register next).answer.2
    (∀ arch, registry.get? arch = latest? arch calls) ∧
    (∀ arch backend, (arch, backend) ∈ registry.toList ↔ registry.get? arch = some backend) ∧
    (registry.toList.map (·.1)).Nodup ∧
    registry.size = (calls.map (·.arch)).toFinset.card ∧
    (ended = .ok () ↔ ∀ earlier ∈ calls, earlier.arch ≠ next.arch) ∧
    ∀ panic, ended = .error panic →
      panic = .backendExists next.arch ∧
      left.size = registry.size ∧
      left.get? next.arch = some next ∧
      (∀ arch, arch ≠ next.arch → left.get? arch = registry.get? arch) ∧
      ((∀ arch, left.get? arch = registry.get? arch) → latest? next.arch calls = some next) := by
  intro registry ended left
  have holds : registry.get? next.arch = latest? next.arch calls :=
    get?_afterCalls_empty calls next.arch
  have replaced : ∀ arch,
      left.get? arch = if arch = next.arch then some next else registry.get? arch :=
    registry.get?_register next
  have outcome : ended = if (registry.get? next.arch).isSome then .error (.backendExists next.arch)
      else .ok () := congrArg Prod.fst (registry.answer_register next)
  refine ⟨get?_afterCalls_empty calls, fun arch backend => registry.backends.mem_toList_iff,
    registry.backends.distinct, size_afterCalls_empty calls, ?accepted, ?rejected⟩
  case accepted =>
    rw [outcome, holds]
    by_cases registered : (latest? next.arch calls).isSome
    · rw [if_pos registered]
      obtain ⟨earlier, mem, own⟩ := latest?_isSome_iff.mp registered
      exact ⟨nofun, fun fresh => absurd own (fresh earlier mem)⟩
    · rw [if_neg registered]
      rw [latest?_isSome_iff] at registered
      exact ⟨fun _ earlier mem own => registered ⟨earlier, mem, own⟩, fun _ => rfl⟩
  case rejected =>
    intro panic rejected
    rw [outcome] at rejected
    split at rejected
    · rename_i registered
      obtain ⟨old, found⟩ := Option.isSome_iff_exists.mp registered
      refine ⟨(Except.error.inj rejected).symm, ?_, (replaced _).trans (if_pos rfl),
        fun arch other => (replaced arch).trans (if_neg other), fun same => ?_⟩
      · have written : left = ⟨registry.backends.insert next.arch next⟩ :=
          congrArg Prod.snd (registry.answer_register next)
        rw [written]
        exact registry.backends.size_insert_of_some found next
      · rw [← holds, ← same, replaced, if_pos rfl]
    · cases rejected

/-- A second backend for x86-64, with another frame limit, is rejected, and is there afterwards. -/
theorem rejected_call_has_effect :
    ∃ first second : Backend,
      ((BackendFactory.amd64 .bytewise).create {}).run.answer = .ok first ∧
      ((BackendFactory.amd64 .bytewise).create { maxFrameSize := 4096 }).run.answer =
        .ok second ∧
      ((afterCalls {} [first]).register second).answer.1 = .error (.backendExists .amd64) ∧
      (afterCalls {} [first]).get? .amd64 = some first ∧
      (afterCalls {} [first, second]).get? .amd64 = some second ∧
      first ≠ second := by
  let vm : VmConfig := {}
  let small : VmConfig := { maxFrameSize := 4096 }
  have isFor := BackendFactory.isFor_amd64 .bytewise
  obtain ⟨first, made⟩ := isFor.exists_backend (show vm.wordSize = 8 from rfl)
  obtain ⟨second, remade⟩ := isFor.exists_backend (show small.wordSize = 8 from rfl)
  have own := isFor.arch_of_backend made
  have same := isFor.arch_of_backend remade
  have limit := (RegisterConfig.ofTarget_eq_ok_iff.mp (isFor.of_backend made)).2.2.1
  have other := (RegisterConfig.ofTarget_eq_ok_iff.mp (isFor.of_backend remade)).2.2.1
  have held : (afterCalls {} [first]).get? .amd64 = some first := by
    rw [get?_afterCalls_empty, latest?_cons, own]
    rfl
  refine ⟨first, second, made, remade, ?rejected, held, ?replaced, ?differ⟩
  case rejected =>
    rw [answer_register, same, held]
    rfl
  case replaced =>
    rw [get?_afterCalls_empty, latest?_cons, latest?_cons, same]
    rfl
  case differ =>
    rintro rfl
    cases limit.symm.trans other

end BackendRegistry
end JitBridge
