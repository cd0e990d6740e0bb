import JitBridge.Proofs.Session.Startup
import JitBridge.Session.Levels
import Mathlib.Data.List.Nodup

/-!
Compilation levels and the numbers that a VM gives to them. Numbers may coincide: a number stands
for the first level that has it (`Level.IsFirstWith`), so every number that is given comes back, but
a level comes back only if no earlier one has its number.

`Session.adjustLevel_configured` says what that makes of the adjustment of levels, for any hooks.
-/

namespace JitBridge

/-- The numbers of the levels, in order of declaration. -/
def LevelNumbers.toList (numbers : LevelNumbers) : List Int32 :=
  [numbers.none, numbers.simple, numbers.limitedProfile, numbers.fullProfile,
    numbers.fullOptimization]

namespace Level

/-- A level is the first, in order of declaration, that has a number. -/
def IsFirstWith (vm : VmConfig) (number : Int32) (level : Level) : Prop :=
  level.toVm vm = number ∧
    ∃ before after, all = before ++ level :: after ∧ ∀ other ∈ before, other.toVm vm ≠ number

variable {vm : VmConfig} {number : Int32} {level : Level}

theorem map_toVm (vm : VmConfig) : all.map (toVm vm) = vm.levels.toList := rfl

theorem toVm_mem (vm : VmConfig) (level : Level) : level.toVm vm ∈ vm.levels.toList :=
  map_toVm vm ▸ List.mem_map_of_mem level.mem_all

theorem ofVm?_eq_some_iff : ofVm? vm number = some level ↔ IsFirstWith vm number level := by
  rw [ofVm?, List.find?_eq_some_iff_append, IsFirstWith, beq_iff_eq, eq_comm]
  refine and_congr_right fun _ => exists_congr fun before => exists_congr fun after => ?_
  refine and_congr_right fun _ => forall₂_congr fun other _ => ?_
  rw [Bool.not_eq_true', beq_eq_false_iff_ne, ne_comm]

/-- A number stands for a level exactly if it is given to one. -/
theorem exists_ofVm?_iff : (∃ level, ofVm? vm number = some level) ↔ number ∈ vm.levels.toList := by
  rw [← Option.isSome_iff_exists, ofVm?, List.find?_isSome, ← map_toVm, List.mem_map]
  refine exists_congr fun level => and_congr_right fun _ => ?_
  rw [beq_iff_eq, eq_comm]

/-- Every level comes back from its number exactly if no two levels have the same. -/
theorem ofVm?_toVm_iff_nodup :
    (∀ level, ofVm? vm (toVm vm level) = some level) ↔ vm.levels.toList.Nodup := by
  rw [← map_toVm]
  constructor
  · intro back
    refine List.Nodup.map_on (fun one _ other _ same => ?_) (by decide)
    have found := back one
    rw [same, back other] at found
    exact (Option.some.inj found).symm
  · intro distinct level
    obtain ⟨other, found⟩ := exists_ofVm?_iff.mpr (level.toVm_mem vm)
    have same := (ofVm?_eq_some_iff.mp found).1
    rw [found, List.inj_on_of_nodup_map distinct other.mem_all level.mem_all same]

end Level

namespace Session

variable {W : Type} (session : Session W) {holder name signature : String}
  {onStackReplacement : Bool} {number : Int32} {level : Level}

/-- The session with these hooks in place of those of its factory. -/
def withHooks (hooks : Option Hooks) : Session W :=
  { session with selection := { session.selection with
      factory := { session.selection.factory with hooks } } }

theorem adjustLevel_of_none (missing : Level.ofVm? session.vm number = none) :
    session.adjustLevel holder name signature onStackReplacement number =
      .error (.unknownLevel number) := by
  rw [adjustLevel, missing]

theorem adjustLevel_of_unknown (unknown : number ∉ session.vm.levels.toList) :
    session.adjustLevel holder name signature onStackReplacement number =
      .error (.unknownLevel number) := by
  cases found : Level.ofVm? session.vm number with
  | some level => exact absurd (Level.exists_ofVm?_iff.mp ⟨level, found⟩) unknown
  | none => exact session.adjustLevel_of_none found

theorem adjustLevel_of_hooks (found : Level.ofVm? session.vm number = some level) {hooks : Hooks}
    (own : session.selection.factory.hooks = some hooks) :
    session.adjustLevel holder name signature onStackReplacement number =
      .ok ((hooks.adjust holder name signature onStackReplacement level).toVm session.vm) := by
  rw [adjustLevel, found, own]

theorem adjustLevel_of_no_hooks (found : Level.ofVm? session.vm number = some level)
    (without : session.selection.factory.hooks = none) :
    session.adjustLevel holder name signature onStackReplacement number = .ok number := by
  rw [adjustLevel, found, without]

/-- A number that is given to a level is adjusted to one that is given to a level. -/
theorem exists_adjustLevel (known : number ∈ session.vm.levels.toList) :
    ∃ adjusted ∈ session.vm.levels.toList,
      session.adjustLevel holder name signature onStackReplacement number = .ok adjusted := by
  obtain ⟨level, found⟩ := Level.exists_ofVm?_iff.mpr known
  cases own : session.selection.factory.hooks with
  | none => exact ⟨number, known, session.adjustLevel_of_no_hooks found own⟩
  | some hooks => exact ⟨_, Level.toVm_mem _ _, session.adjustLevel_of_hooks found own⟩

/-- Hooks that keep the level make no difference. -/
theorem adjustLevel_of_kept {hooks : Hooks} (own : session.selection.factory.hooks = some hooks)
    (keeps : ∀ level, Level.ofVm? session.vm number = some level →
      hooks.adjust holder name signature onStackReplacement level = level) :
    session.adjustLevel holder name signature onStackReplacement number =
      (session.withHooks none).adjustLevel holder name signature onStackReplacement number := by
  cases found : Level.ofVm? session.vm number with
  | none =>
    rw [session.adjustLevel_of_none found, (session.withHooks none).adjustLevel_of_none found]
  | some level =>
    rw [session.adjustLevel_of_hooks found own,
      (session.withHooks none).adjustLevel_of_no_hooks found rfl, keeps level found,
      (Level.ofVm?_eq_some_iff.mp found).1]

/-- Let a VM give any numbers to the levels. A number stands for a level exactly if it is given to
one, and the level that it stands for has it. A level's number stands for the first level that has
it, which is always the level itself exactly if the numbers are distinct. So, whatever the hooks, a
number is refused exactly if it is given to no level, and otherwise it is adjusted to a number that
is given to a level, and that would be accepted whatever the hooks are by then. Without hooks it
stays as it is, as it does with hooks that keep the level. -/
theorem adjustLevel_configured (session : Session W) (holder name signature : String)
    (onStackReplacement : Bool) :
    let vm := session.vm
    let configured := vm.levels.toList
    let adjust := fun (session : Session W) =>
      session.adjustLevel holder name signature onStackReplacement
    (∀ number, (∃ level, Level.ofVm? vm number = some level) ↔ number ∈ configured) ∧
    (∀ number level, Level.ofVm? vm number = some level → level.toVm vm = number) ∧
    (∀ level : Level, ∃ first,
      Level.ofVm? vm (level.toVm vm) = some first ∧ first.IsFirstWith vm (level.toVm vm)) ∧
    ((∀ level, Level.ofVm? vm (level.toVm vm) = some level) ↔ configured.Nodup) ∧
    (∀ number, number ∉ configured → adjust session number = .error (.unknownLevel number)) ∧
    (∀ number ∈ configured, ∃ adjusted ∈ configured, adjust session number = .ok adjusted ∧
      ∀ later, ∃ again ∈ configured, adjust (session.withHooks later) adjusted = .ok again) ∧
    (∀ number ∈ configured, adjust (session.withHooks none) number = .ok number) ∧
    ∀ number hooks, session.selection.factory.hooks = some hooks →
      (∀ level, Level.ofVm? vm number = some level →
        hooks.adjust holder name signature onStackReplacement level = level) →
      adjust session number = adjust (session.withHooks none) number := by
  intro vm configured adjust
  refine ⟨fun number => Level.exists_ofVm?_iff, ?back, ?first, Level.ofVm?_toVm_iff_nodup,
    fun number unknown => session.adjustLevel_of_unknown unknown, ?known, ?without,
    fun number hooks own keeps => session.adjustLevel_of_kept own keeps⟩
  case back => exact fun number level found => (Level.ofVm?_eq_some_iff.mp found).1
  case first =>
    intro level
    obtain ⟨first, found⟩ := Level.exists_ofVm?_iff.mpr (level.toVm_mem vm)
    exact ⟨first, found, Level.ofVm?_eq_some_iff.mp found⟩
  case known =>
    intro number known
    obtain ⟨adjusted, given, answer⟩ := session.exists_adjustLevel known
    exact ⟨adjusted, given, answer, fun later => (session.withHooks later).exists_adjustLevel given⟩
  case without =>
    intro number known
    obtain ⟨level, found⟩ := Level.exists_ofVm?_iff.mpr known
    exact (session.withHooks none).adjustLevel_of_no_hooks found rfl

/-- Two numbers for five levels, and hooks that ask for full optimization: simple code is taken for
none, and its number becomes that of full optimization, which the same session would accept. A
third number is refused. -/
theorem adjustLevel_configured_of_coinciding :
    let hooks : Hooks := { adjust := fun _ _ _ _ _ => .fullOptimization }
    let factory : CompilerFactory Unit :=
      { name := "demo", create := fun _ => return .stub, hooks := some hooks }
    let plan : Plan Unit :=
      { vm := { levels := ⟨0, 0, 1, 1, 1⟩ }, services := .builtin .bytewise }
    ∃ (backend : Backend) (session : Session Unit),
      session = plan.session backend (Plan.registryOf backend) ⟨some 0, factory⟩ ∧
      Level.ofVm? session.vm (Level.simple.toVm session.vm) = some .none ∧
      session.adjustLevel "A" "run" "()V" false 0 = .ok 1 ∧
      (∃ again, session.adjustLevel "A" "run" "()V" false 1 = .ok again) ∧
      (session.withHooks none).adjustLevel "A" "run" "()V" false 0 = .ok 0 ∧
      session.adjustLevel "A" "run" "()V" false 7 = .error (.unknownLevel 7) := by
  intro hooks factory plan
  have isFor := BackendFactory.isFor_amd64 .bytewise
  obtain ⟨backend, -⟩ := isFor.exists_backend (show plan.vm.wordSize = 8 from rfl)
  let session := plan.session backend (Plan.registryOf backend) ⟨some 0, factory⟩
  obtain ⟨-, -, -, -, refused, accepted, without, -⟩ :=
    session.adjustLevel_configured "A" "run" "()V" false
  have known : (0 : Int32) ∈ plan.vm.levels.toList := by decide
  have unknown : (7 : Int32) ∉ plan.vm.levels.toList := by decide
  obtain ⟨adjusted, -, answer, later⟩ := accepted 0 known
  obtain rfl : adjusted = 1 := Except.ok.inj (answer.symm.trans rfl)
  obtain ⟨again, -, accepted⟩ := later (some hooks)
  exact ⟨backend, session, rfl, rfl, answer, ⟨again, accepted⟩, without 0 known,
    refused 7 unknown⟩

end Session
end JitBridge
