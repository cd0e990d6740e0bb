import JitBridge.Proofs.Session.Contacts

/-!
Creation of the compiler of a session. A call that needs the compiler asks the chosen factory for
one as long as no attempt has succeeded, and each attempt may fail or panic. What comes of a call is
either `Serves`, with the one compiler there is, or `Refuses`, with the fault of the attempt. An
attempt that panics poisons the lock (`Session.lock_afterCalls_eq_poisoned_iff`), which keeps no later
one from being made.

`Session.compiler_created_until_success` says which of the two it is from the contacts of the run
with the host program.
-/

namespace JitBridge

variable {W : Type}

/-! ### Contacts that deal with the compiler -/

namespace Contact

/-- How the factory's attempts to make a compiler ended, in order. -/
def creations (contacts : List (Contact W)) : List (Except Fault (Compiler W)) :=
  contacts.filterMap fun
    | .created made => some made
    | _ => none

/-- What compilers were asked to compile, and how that ended, in order. -/
def compilations (contacts : List (Contact W)) :
    List (Compiler W × Request × Except Fault CompileAnswer) :=
  contacts.filterMap fun
    | .compiled compiler request outcome => some (compiler, request, outcome)
    | _ => none

theorem creations_append (contacts more : List (Contact W)) :
    creations (contacts ++ more) = creations contacts ++ creations more :=
  List.filterMap_append

theorem compilations_append (contacts more : List (Contact W)) :
    compilations (contacts ++ more) = compilations contacts ++ compilations more :=
  List.filterMap_append

end Contact

/-- Telling an event has nothing to do with the compiler. -/
theorem Told.no_compiler {notice : Notice} {place count : Nat} {told : List (Contact W)}
    {outcome : Except Fault Unit} (heard : Told notice place count told outcome) :
    Contact.creations told = [] ∧ Contact.compilations told = [] := by
  cases heard with
  | all => simp [Contact.creations, Contact.compilations]
  | upTo inside => simp [Contact.creations, Contact.compilations]

/-- Whether a call needs the compiler. -/
def SessionCall.needsCompiler : SessionCall → Bool
  | compile _ => true
  | prepare => true
  | _ => false

namespace Session

variable (session : Session W) (s : State W)

/-- A call is served by a compiler: it is handed out, or it is asked for the compilation and the
engine is told the result that stands for the way in which that ended. -/
inductive Serves (compiler : Compiler W) : SessionCall → List (Contact W) → Prop
  | prepare {now : List (Contact W)} (handed : (session.compiler.runFrom s).answer.1 = .ok compiler)
      (silent : Contact.compilations now = []) : Serves compiler .prepare now
  | compile {request : Request} {now : List (Contact W)} {outcome : Except Fault CompileAnswer}
      (asked : Contact.compilations now = [(compiler, request, outcome)])
      (told : ∀ result, (session.call s (.compile request)).1 = .ok (.compiled result) ↔
        Normalizes outcome result) : Serves compiler (.compile request) now

/-- A call is refused with the fault of an attempt to make the compiler: whoever asked for the
compiler gets the fault, and the engine gets its text as a failure that must not be tried again. -/
inductive Refuses (fault : Fault) : SessionCall → List (Contact W) → Prop
  | prepare (told : (session.compiler.runFrom s).answer.1 = .error fault) :
      Refuses fault .prepare [.created (.error fault)]
  | compile {request : Request} {message : String}
      (text : Normalizes (.error fault) (.failure message false))
      (told : (session.call s (.compile request)).1 = .ok (.compiled (.failure message false))) :
      Refuses fault (.compile request) [.created (.error fault)]

theorem exists_failure (fault : Fault) :
    ∃ message, Normalizes (.error fault) (.failure message false) := by
  cases fault with
  | error e => exact ⟨_, .error e⟩
  | panic p =>
    cases text : p.text? with
    | some text => exact ⟨_, .panic text⟩
    | none => exact ⟨_, .silentPanic text⟩

theorem compilations_creation (compiler : Option (Compiler W)) (world : W) :
    Contact.compilations (session.creation compiler world) = [] := by
  cases compiler <;> rfl

theorem creations_compilation (request : Request) (acquired : Except Fault (Compiler W) × W) :
    Contact.creations (compilation request acquired) = [] := by
  rcases acquired with ⟨fault | compiler, world⟩ <;> rfl

/-- There is at most one attempt, and there is one if there is no compiler. -/
theorem creations_creation (compiler : Option (Compiler W)) (world : W) :
    Contact.creations (session.creation compiler world) =
      if compiler = none then [(session.acquire compiler world).1] else [] := by
  cases compiler <;> rfl

/-- Only an attempt that was made can fail. -/
theorem creation_of_error {compiler : Option (Compiler W)} {world : W} {fault : Fault}
    (failed : (session.acquire compiler world).1 = .error fault) :
    session.creation compiler world = [.created (.error fault)] := by
  cases compiler with
  | some compiler => cases failed
  | none => rw [creation, failed]

/-- What a call that needs the compiler makes of the compiler it gets, or of the fault. -/
theorem exists_asks_of_needsCompiler {call : SessionCall} (needs : call.needsCompiler = true) :
    ∃ now, session.Asks s call now ∧
      Contact.creations now = Contact.creations (session.creation s.compiler s.world) ∧
      (session.call s call).2.compiler = (session.acquire s.compiler s.world).1.toOption ∧
      (∀ compiler, (session.acquire s.compiler s.world).1 = .ok compiler →
        session.Serves s compiler call now) ∧
      ∀ fault, (session.acquire s.compiler s.world).1 = .error fault →
        session.Refuses s fault call now := by
  cases call with
  | prepare =>
    refine ⟨_, session.asks_prepare s, rfl, ?_, fun compiler made => ?_, fun fault failed => ?_⟩
    · rw [Session.call, perform, answer_compiler]
    · exact .prepare (by rw [answer_compiler, made]) (session.compilations_creation ..)
    · rw [session.creation_of_error failed]
      exact .prepare (by rw [answer_compiler, failed])
  | compile request =>
    obtain ⟨⟨statistics, left⟩, told⟩ := session.call_compile s request
    refine ⟨_, session.asks_compile s request, ?_, ?_, fun compiler made => ?_,
      fun fault failed => ?_⟩
    · rw [Contact.creations_append, creations_compilation, List.append_nil]
    · rw [left, replied, reply]
      rcases session.acquire s.compiler s.world with ⟨fault | compiler, world⟩ <;> rfl
    · rcases acquired : session.acquire s.compiler s.world with ⟨_, world⟩
      rw [acquired] at made
      cases made
      rw [reply, acquired] at told
      refine .compile ?_ told
      rw [Contact.compilations_append, compilations_creation]
      rfl
    · obtain ⟨message, text⟩ := exists_failure fault
      rw [session.creation_of_error failed]
      rcases acquired : session.acquire s.compiler s.world with ⟨_, world⟩
      rw [acquired] at failed
      cases failed
      rw [reply, acquired] at told
      exact .compile text ((told _).mpr text)
  | _ => cases needs

/-- Other calls have nothing to do with the compiler. -/
theorem exists_asks_of_not_needsCompiler {call : SessionCall} (needs : call.needsCompiler = false) :
    ∃ now, session.Asks s call now ∧ Contact.creations now = [] ∧
      (session.call s call).2.compiler = s.compiler := by
  cases tells : s.notice? call with
  | some notice =>
    obtain ⟨told, outcome, asks, heard, -⟩ := session.exists_told s tells
    refine ⟨told, asks, heard.no_compiler.1, ?_⟩
    rw [session.call_of_notice s tells]
    cases call <;> rfl
  | none =>
    cases call with
    | invalidate handle =>
      refine ⟨_, session.asks_invalidate s handle, rfl, ?_⟩
      rw [call_invalidate]
    | attach executor => exact ⟨_, session.asks_attach s executor, rfl, rfl⟩
    | prepare => cases needs
    | compile request => cases needs
    | _ => cases tells

/-! ### Runs -/

/-- The attempts of a run: all but the last have failed, and one that succeeded made the compiler
there is. -/
def Attempted (attempts : List (Except Fault (Compiler W))) (compiler : Option (Compiler W)) :
    Prop :=
  ∃ faults : List Fault, attempts = faults.map .error ++ compiler.toList.map .ok

theorem Attempted.ok_mem_iff {attempts : List (Except Fault (Compiler W))}
    {made : Option (Compiler W)} (attempted : Attempted attempts made) {compiler : Compiler W} :
    .ok compiler ∈ attempts ↔ made = some compiler := by
  obtain ⟨faults, rfl⟩ := attempted
  simp

/-- An attempt is made where there is no compiler. -/
theorem Attempted.step {attempts : List (Except Fault (Compiler W))}
    {compiler : Option (Compiler W)} (attempted : Attempted attempts compiler) (world : W) :
    Attempted (attempts ++ Contact.creations (session.creation compiler world))
      (session.acquire compiler world).1.toOption := by
  obtain ⟨faults, rfl⟩ := attempted
  cases compiler with
  | some compiler => exact ⟨faults, List.append_nil _⟩
  | none =>
    rw [creation]
    cases (session.acquire none world).1 with
    | error fault => exact ⟨faults ++ [fault], by simp [Contact.creations, Except.toOption]⟩
    | ok compiler => exact ⟨faults, by simp [Contact.creations, Except.toOption]⟩

/-- The contacts of a run show all attempts to make the compiler. -/
theorem attempted_afterCalls (world : W) (calls : List SessionCall) :
    Attempted (Contact.creations (session.contacts world calls))
      (session.afterCalls (session.initial world) calls).compiler := by
  induction calls using List.reverseRecOn with
  | nil => exact ⟨[], rfl⟩
  | append_singleton calls call ih =>
    rw [afterCalls_append]
    show Attempted _ (session.call _ call).2.compiler
    cases needs : call.needsCompiler with
    | true =>
      obtain ⟨now, asks, made, left, -⟩ := session.exists_asks_of_needsCompiler _ needs
      rw [contacts_append asks, Contact.creations_append, made, left]
      exact ih.step session _
    | false =>
      obtain ⟨now, asks, made, left⟩ := session.exists_asks_of_not_needsCompiler _ needs
      rw [contacts_append asks, Contact.creations_append, made, left, List.append_nil]
      exact ih

/-- A call that needs the compiler holds the lock while it is made. -/
theorem lock_call (s : State W) (call : SessionCall) :
    (session.call s call).2.lock =
      if call.needsCompiler then s.lock.release (session.acquire s.compiler s.world).1
      else s.lock := by
  cases tells : s.notice? call with
  | some notice =>
    rw [session.call_of_notice s tells]
    cases call with
    | prepare => cases tells
    | compile request => cases tells
    | _ => rfl
  | none =>
    cases call with
    | invalidate handle =>
      rw [call_invalidate]
      rfl
    | attach executor => rfl
    | prepare =>
      rw [Session.call, perform, answer_compiler]
      rfl
    | compile request =>
      obtain ⟨⟨statistics, left⟩, -⟩ := session.call_compile s request
      rw [left]
      rfl
    | _ => cases tells

/-- After any run the lock is poisoned exactly if an attempt has panicked. The attempts after that
one are made all the same. -/
theorem lock_afterCalls_eq_poisoned_iff (world : W) (calls : List SessionCall) :
    (session.afterCalls (session.initial world) calls).lock = .poisoned ↔
      ∃ p, .error (.panic p) ∈ Contact.creations (session.contacts world calls) := by
  induction calls using List.reverseRecOn with
  | nil => exact ⟨nofun, nofun⟩
  | append_singleton calls call ih =>
    rw [afterCalls_append]
    show (session.call _ call).2.lock = .poisoned ↔ _
    rw [lock_call]
    cases needs : call.needsCompiler with
    | false =>
      obtain ⟨now, asks, made, -⟩ := session.exists_asks_of_not_needsCompiler _ needs
      rw [contacts_append asks, Contact.creations_append, made, List.append_nil]
      exact ih
    | true =>
      obtain ⟨now, asks, made, -⟩ := session.exists_asks_of_needsCompiler _ needs
      rw [contacts_append asks, Contact.creations_append, made, creations_creation, if_pos rfl,
        Lock.release_eq_poisoned_iff, ih]
      cases (session.afterCalls (session.initial world) calls).compiler with
      | some compiler => simp [acquire]
      | none => simp [List.mem_append, exists_or, eq_comm]

/-- After any run, a call asks the chosen factory for a compiler, once, exactly if it needs the
compiler and no attempt before has succeeded. If there is a compiler then, it serves the call, and
there is no other at any time of the run. If the attempt fails, the call is refused with its fault
and leaves no compiler. -/
theorem compiler_created_until_success (world : W) (before : List SessionCall)
    (call : SessionCall) :
    let s := session.afterCalls (session.initial world) before
    let left := (session.call s call).2
    let earlier := session.contacts world before
    ∃ now, session.contacts world (before ++ [call]) = earlier ++ now ∧
      (Contact.creations now).length ≤ 1 ∧
      (Contact.creations now ≠ [] ↔ call.needsCompiler = true ∧
        ∀ compiler, .ok compiler ∉ Contact.creations earlier) ∧
      Attempted (Contact.creations (earlier ++ now)) left.compiler ∧
      (∀ compiler, .ok compiler ∈ Contact.creations (earlier ++ now) →
        call.needsCompiler = true → session.Serves s compiler call now) ∧
      ∀ fault, .error fault ∈ Contact.creations now →
        session.Refuses s fault call now ∧ left.compiler = none := by
  intro s left earlier
  have attempted : Attempted (Contact.creations earlier) s.compiler :=
    session.attempted_afterCalls world before
  have attempted' := session.attempted_afterCalls world (before ++ [call])
  rw [afterCalls_append] at attempted'
  cases needs : call.needsCompiler with
  | false =>
    obtain ⟨now, asks, made, kept⟩ := session.exists_asks_of_not_needsCompiler s needs
    have contacts := contacts_append asks
    rw [contacts] at attempted'
    refine ⟨now, contacts, ?_, ?_, attempted', nofun, ?_⟩
    all_goals simp [made]
  | true =>
    obtain ⟨now, asks, made, kept, serves, refuses⟩ :=
      session.exists_asks_of_needsCompiler s needs
    have contacts := contacts_append asks
    rw [contacts] at attempted'
    refine ⟨now, contacts, ?_, ?_, attempted', ?_, ?_⟩
    · rw [made, creations_creation]
      split <;> simp
    · rw [made, creations_creation]
      simp only [attempted.ok_mem_iff, ← Option.eq_none_iff_forall_ne_some, true_and]
      split <;> simp_all
    · intro compiler mem _
      have there : (session.acquire s.compiler s.world).1.toOption = some compiler :=
        kept.symm.trans (attempted'.ok_mem_iff.mp mem)
      cases acquired : (session.acquire s.compiler s.world).1 with
      | error fault =>
        rw [acquired] at there
        cases there
      | ok other =>
        rw [acquired] at there
        cases there
        exact serves compiler acquired
    · intro fault mem
      have failed : (session.acquire s.compiler s.world).1 = .error fault := by
        rw [made, creations_creation] at mem
        split at mem
        · exact (List.mem_singleton.mp mem).symm
        · cases mem
      exact ⟨refuses fault failed, kept.trans (by rw [failed]; rfl)⟩

/-- The first attempt fails and the second panics. The third makes the compiler, for the request
that needs it. -/
theorem compiler_created_at_third_attempt :
    let full : Fault := .error (.illegalState "full")
    let broken : Fault := .panic (.raised "broken")
    let compiler : Compiler Nat := { serial := 1, compile := fun _ => pure (.native (.success 7)) }
    let factory : CompilerFactory Nat := {
      name := "demo"
      create := fun _ => Action.of fun attempts =>
        pure (match attempts with
          | 0 => .error full
          | 1 => .error broken
          | _ => .ok compiler, attempts + 1) }
    let plan : Plan Nat := {
      options := Options.set {} .compiler "demo"
      services := (Services.builtin .bytewise).addCompiler factory }
    let before : List SessionCall := [.compile (requestOf 1), .prepare]
    ∃ session now, (plan.start.runFrom { world := 0 }).answer.1 = .ok (.running session) ∧
      session.Refuses (session.initial 0) full (.compile (requestOf 1))
        [.created (.error full)] ∧
      Contact.creations (session.contacts 0 before) = [.error full, .error broken] ∧
      session.contacts 0 (before ++ [.compile (requestOf 2)]) =
        session.contacts 0 before ++ now ∧
      Contact.creations now = [.ok compiler] ∧
      session.Serves (session.afterCalls (session.initial 0) before) compiler
        (.compile (requestOf 2)) now := by
  intro full broken compiler factory plan before
  have selects : plan.Selects 0 ⟨some 0, factory⟩ 0 :=
    .requested rfl ⟨rfl, by decide, fun _ other => absurd other List.not_mem_nil⟩
  obtain ⟨backend, started⟩ := Plan.exists_starts rfl rfl rfl rfl selects
  let session := plan.session backend (Plan.registryOf backend) ⟨some 0, factory⟩
  have first : session.contacts 0 ([] ++ [.compile (requestOf 1)]) =
      [.created (.error full)] := rfl
  have attempts : Contact.creations (session.contacts 0 before) =
      [.error full, .error broken] := rfl
  obtain ⟨now, asked, -, -, -, -, refuses⟩ :=
    session.compiler_created_until_success 0 [] (.compile (requestOf 1))
  obtain rfl : [.created (.error full)] = now := first.symm.trans asked
  obtain ⟨now, asked, -, -, -, serves, -⟩ :=
    session.compiler_created_until_success 0 before (.compile (requestOf 2))
  have all : Contact.creations (session.contacts 0 before ++ now) =
      [.error full, .error broken, .ok compiler] := by
    rw [← asked]
    rfl
  have made : Contact.creations now = [.ok compiler] := by
    rw [Contact.creations_append, attempts] at all
    exact (List.append_right_inj [.error full, .error broken]).mp all
  have refused := (refuses full (by simp [Contact.creations])).1
  have served := serves compiler (by simp [all]) rfl
  exact ⟨session, now, congrArg Prod.fst started, refused, attempts, asked, made, served⟩

end Session
end JitBridge
