import JitBridge.CommandLine.Run
import JitBridge.Proofs.Convention.Passable

/-!
Conventions of method descriptors, and the command that prints one. A descriptor that is read has no
parameter without lane, so a call of it only stops where its argument area ends beyond the last
size. With the built-in backends that takes a descriptor of `2 ^ 60` bytes or more.
-/

namespace JitBridge

namespace BackendFactory

theorem mem_of_find {factories : List BackendFactory} {architecture : String} {place : Nat}
    {factory : BackendFactory} (found : find factories architecture = .ok (place, factory)) :
    factory ∈ factories := by
  unfold find at found
  split at found
  · rename_i entry
    cases found
    exact List.fst_mem_of_mem_zipIdx (List.mem_of_find?_eq_some entry)
  · cases found

/-- A built-in backend for words of 8 bytes has a convention for every call of kinds that can be
passed, if there are fewer of them than words of memory. -/
theorem exists_convention {decoder : Decoder} {factory : BackendFactory}
    (mem : factory ∈ builtin decoder) {vm : VmConfig} (word : vm.wordSize = 8)
    {parameters : List Kind}
    (passable : ∀ kind ∈ parameters, kind.lane.isSome) (fits : parameters.length + 8 < 2 ^ 61)
    (callType : CallType) (returnKind : Kind) :
    ∃ backend convention, (factory.create vm).run.answer = .ok backend ∧
      backend.registers.callingConvention callType returnKind parameters = .ok convention ∧
      convention.arguments.length = parameters.length := by
  obtain ⟨arch, own⟩ := exists_isFor_of_mem_builtin mem
  obtain ⟨backend, created⟩ := own.exists_backend word
  have made := own.of_backend created
  obtain ⟨convention, assigned⟩ := RegisterConfig.exists_callingConvention made passable fits
  exact ⟨backend, convention, created, assigned,
    (RegisterConfig.agrees made passable assigned).length⟩

end BackendFactory

namespace Signature

variable {descriptor : String} {signature : Signature}

/-- The kinds of a descriptor that is read can be passed, and there are fewer of them than the
descriptor has bytes. -/
theorem passable_of_parse (parsed : parse descriptor = .ok signature) :
    (∀ kind ∈ signature.parameters, kind.lane.isSome) ∧
      signature.parameters.length < (bytesOf descriptor).length := by
  obtain ⟨-, denotes⟩ := parse_eq_ok_iff.mp parsed
  obtain ⟨lanes, -, fewer⟩ := passable_of_denotes denotes
  exact ⟨lanes, fewer⟩

end Signature

/-! ### The command -/

namespace CommandLine

/-- The backend of an architecture that a factory supports is the one that the factory makes. -/
theorem runFrom_hostBackend {decoder : Decoder} {vm : VmConfig} {place : Nat}
    {factory : BackendFactory}
    (found : BackendFactory.find (BackendFactory.builtin decoder) vm.hostArchitecture =
      .ok (place, factory)) :
    (hostBackend decoder vm).runFrom () =
      ⟨((factory.create vm).run.answer, ()), (factory.create vm).run.written⟩ := by
  unfold hostBackend
  rw [found]
  refine Emit.ext rfl ?_
  show (factory.create vm).run.written ++ [] ++ [] = _
  rw [List.append_nil, List.append_nil]

theorem runFrom_hostBackend_of_missing {decoder : Decoder} {vm : VmConfig} {e : Error}
    (missing : BackendFactory.find (BackendFactory.builtin decoder) vm.hostArchitecture =
      .error e) :
    (hostBackend decoder vm).runFrom () = pure (.error (.error e), ()) := by
  unfold hostBackend
  rw [missing]
  rfl

variable {decoder : Decoder} {options : Options} {descriptor : String} {callType : CallType}
  {target : TargetArguments} {signature : Signature}
  (parsed : Signature.parse descriptor = .ok signature)

include parsed

theorem mapError_of_parse : (Signature.parse descriptor).mapError Fault.error = .ok signature := by
  rw [parsed]
  rfl

theorem runFrom_convention_of_missing {e : Error}
    (missing : BackendFactory.find (BackendFactory.builtin decoder)
      target.vmConfig.hostArchitecture = .error e) :
    ((Command.convention descriptor callType target).run decoder options).runFrom () =
      ⟨(.error (.error e), ()), []⟩ := by
  unfold Command.run
  dsimp only
  rw [Action.runFrom_bind, Action.runFrom_ofExcept, mapError_of_parse parsed, pure_bind]
  dsimp only
  rw [Action.runFrom_bind, runFrom_hostBackend_of_missing missing]
  rfl

/-- The command prints the convention that the configuration of the backend answers. -/
theorem runFrom_convention {place : Nat} {factory : BackendFactory}
    (found : BackendFactory.find (BackendFactory.builtin decoder)
      target.vmConfig.hostArchitecture = .ok (place, factory)) {backend : Backend}
    (created : (factory.create target.vmConfig).run.answer = .ok backend)
    {convention : CallingConvention}
    (assigned : backend.registers.callingConvention callType signature.returnKind
      signature.parameters = .ok convention) :
    ((Command.convention descriptor callType target).run decoder options).runFrom () =
      ⟨(.ok (), ()), (factory.create target.vmConfig).run.written ++
        [.print s!"{signature.descriptor} {callType.label}\n{convention.text}\n"]⟩ := by
  unfold Command.run
  dsimp only
  rw [Action.runFrom_bind, Action.runFrom_ofExcept, mapError_of_parse parsed, pure_bind]
  dsimp only
  rw [Action.runFrom_bind, runFrom_hostBackend found, created]
  refine Emit.ext ?_ ?_
  · rw [Emit.answer_bind]
    dsimp only
    rw [Action.runFrom_bind, Action.runFrom_ofExcept, assigned]
    rfl
  · rw [Emit.written_bind]
    dsimp only
    rw [Action.runFrom_bind, Action.runFrom_ofExcept, assigned]
    rfl

omit parsed

/-- Where a call stops for want of a lane, and where it does not. As long as the home space is a
size and the argument area of the parameters before the first one without lane ends at one, a call
stops this way exactly if one of its parameters has no lane, whatever its result is; elsewhere it
overflows before. A descriptor that is read has no such parameter. For one of less than `2 ^ 60`
bytes and an architecture with a backend, the command prints a convention with one argument for each
parameter. -/
theorem noLane_iff_and_run_convention :
    (∀ (config : RegisterConfig) (callType : CallType) (returnKind : Kind) (parameters : List Kind),
      let outcome := config.callingConvention callType returnKind parameters
      (∀ panic, config.abi.pools callType config.target.wordSize = .error panic →
        outcome = .error (.overflow .multiply)) ∧
      ∀ pools, config.abi.pools callType config.target.wordSize = .ok pools →
        (pools.HasRoom [] (Kind.passable parameters) →
          ((∃ kind, outcome = .error (.noLane kind)) ↔
            ∃ kind ∈ parameters, kind = .void ∨ kind = .illegal)) ∧
        (¬ pools.HasRoom [] (Kind.passable parameters) → outcome = .error (.overflow .add))) ∧
    ∀ descriptor signature, Signature.parse descriptor = .ok signature →
      (∀ kind ∈ signature.parameters, kind ≠ .void ∧ kind ≠ .illegal) ∧
      (∀ (config : RegisterConfig) (callType : CallType) (kind : Kind),
        config.callingConvention callType signature.returnKind signature.parameters ≠
          .error (.noLane kind)) ∧
      ((Signature.bytesOf descriptor).length < 2 ^ 60 →
        ∀ (decoder : Decoder) (options : Options) (callType : CallType) (target : TargetArguments),
        let vm := target.vmConfig
        let factories := BackendFactory.builtin decoder
        let finished :=
          ((Command.convention descriptor callType target).run decoder options).runFrom ()
        (∀ e, BackendFactory.find factories vm.hostArchitecture = .error e →
          finished = ⟨(.error (.error e), ()), []⟩) ∧
        ∀ place factory,
          BackendFactory.find factories vm.hostArchitecture = .ok (place, factory) →
          ∃ backend convention, (factory.create vm).run.answer = .ok backend ∧
            backend.registers.callingConvention callType signature.returnKind
              signature.parameters = .ok convention ∧
            convention.arguments.length = signature.parameters.length ∧
            finished = ⟨(.ok (), ()), (factory.create vm).run.written ++
              [.print s!"{signature.descriptor} {callType.label}\n{convention.text}\n"]⟩) := by
  constructor
  · intro config callType returnKind parameters outcome
    constructor
    · intro panic failed
      rw [← (Abi.pools_eq_error_iff.mp failed).1]
      exact RegisterConfig.callingConvention_of_pools_error failed
    · intro pools drawn
      constructor
      · exact RegisterConfig.exists_noLane_iff drawn
      · exact RegisterConfig.callingConvention_of_full drawn
  · intro descriptor signature parsed
    obtain ⟨lanes, fewer⟩ := Signature.passable_of_parse parsed
    refine ⟨fun kind mem => Kind.lane_isSome_iff.mp (lanes kind mem), ?_, ?_⟩
    · intro config callType kind
      exact RegisterConfig.callingConvention_ne_noLane lanes kind
    · intro short decoder options callType target vm factories finished
      constructor
      · intro e missing
        exact runFrom_convention_of_missing parsed missing
      · intro place factory found
        have word : vm.wordSize = 8 := rfl
        have fits : signature.parameters.length + 8 < 2 ^ 61 := by omega
        obtain ⟨backend, convention, created, assigned, length⟩ :=
          BackendFactory.exists_convention (BackendFactory.mem_of_find found) word lanes fits
            callType signature.returnKind
        exact ⟨backend, convention, created, assigned, length,
          runFrom_convention parsed found created assigned⟩

/-- On AArch64 a `void` among the parameters stops a call, and the command prints the convention of
a method that takes an array and a `double`. -/
theorem run_convention_of_array :
    let config : RegisterConfig := ⟨Arch.aarch64.target, .aarch64, [], [], 16384⟩
    let target : TargetArguments := { arch := some "AArch64" }
    let command := Command.convention "([Ljava/lang/String;D)V" .managedCall target
    (∃ kind, config.callingConvention .managedCall .int [.long, .void] = .error (.noLane kind)) ∧
    ∃ backend convention, (BackendFactory.aarch64.create target.vmConfig).run.answer = .ok backend ∧
      backend.registers.callingConvention .managedCall .void [.object, .double] = .ok convention ∧
      convention.arguments.length = 2 ∧
      ((command.run .bytewise {}).runFrom ()).answer = (.ok (), ()) := by
  intro config target command
  obtain ⟨stops, runs⟩ := noLane_iff_and_run_convention
  have parsed : Signature.parse "([Ljava/lang/String;D)V" =
      .ok ⟨"([Ljava/lang/String;D)V", [.object, .double], .void⟩ := by decide +kernel
  obtain ⟨-, pools⟩ := stops config .managedCall .int [.long, .void]
  obtain ⟨missed, -⟩ := pools _ rfl
  obtain ⟨-, -, prints⟩ := runs _ _ parsed
  obtain ⟨-, found⟩ := prints (by decide) .bytewise {} .managedCall target
  have named : BackendFactory.find (BackendFactory.builtin .bytewise) "AArch64" =
      .ok (1, BackendFactory.aarch64) := by
    have first : (BackendFactory.amd64 .bytewise).answersTo "AArch64" = false := by decide
    have second : BackendFactory.aarch64.answersTo "AArch64" = true := by decide
    simp [BackendFactory.find, BackendFactory.builtin, first, second]
  obtain ⟨backend, convention, created, assigned, length, finished⟩ := found _ _ named
  refine ⟨(missed (by decide)).mpr ⟨.void, by decide⟩, backend, convention, created, assigned,
    length, ?_⟩
  rw [finished]

/-- A native call on Windows with words of a quarter of all memory: its home space is no size, so a
`void` parameter is never reached. -/
theorem overflow_before_noLane :
    ∃ (target : Target) (vm : VmConfig) (config : RegisterConfig) (parameters : List Kind),
      config.Configures target vm ∧ (∃ kind ∈ parameters, kind = .void ∨ kind = .illegal) ∧
      ¬ ∃ kind, config.callingConvention .nativeCall .int parameters = .error (.noLane kind) := by
  let target : Target := { Arch.amd64.target with wordSize := 2 ^ 62 }
  let vm : VmConfig := { windows := true }
  cases made : RegisterConfig.ofTarget target vm with
  | error fault =>
    have tried : (RegisterConfig.ofTarget target vm).isOk = true := by decide +kernel
    rw [made] at tried
    cases tried
  | ok config =>
    obtain ⟨own, abi, -⟩ := RegisterConfig.ofTarget_eq_ok_iff.mp made
    have failed : config.abi.pools .nativeCall config.target.wordSize =
        .error (.overflow .multiply) := by
      rw [own, abi]
      exact Abi.pools_eq_error_iff.mpr ⟨rfl, rfl, by decide⟩
    refine ⟨target, vm, config, [.void], .inl made, ⟨.void, List.mem_cons_self, .inl rfl⟩, ?_⟩
    rintro ⟨kind, stopped⟩
    rw [RegisterConfig.callingConvention_of_pools_error failed] at stopped
    cases stopped

end CommandLine
end JitBridge
