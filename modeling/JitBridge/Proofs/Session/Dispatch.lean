import JitBridge.Session.Compile
import JitBridge.Session.Startup
import Mathlib.Data.List.Forall2

/-!
Dispatch of compile requests, from what the compiler and its factory do to what the engine is told.
`Session.reply` is the host program's side of a request: how asking for the compilation ended, and
which compiler there is from then on. `Normalizes` says which result stands for which ending.

`Session.compile_returns_unless_raised` settles one request: errors and panics of the factory and of
the compiler become failures, but a foreign result that panics when it is asked for its failure
unwinds to the engine, and leaves a request that was counted neither as a success nor as a failure.
An error carries its text, so there is nothing that could panic when it is shown.
`Session.results_normalize` follows the results and the counters through a run.
-/

namespace JitBridge

deriving instance DecidableEq for CompileAnswer

/-! ### Results for the ways in which asking for a compilation ends -/

/-- The result that stands for the way in which asking for a compilation ended. Only a foreign
result that panics when it is asked for its failure has none. -/
inductive Normalizes : Except Fault CompileAnswer → CompileResult → Prop
  | native (result : CompileResult) : Normalizes (.ok (.native result)) result
  | foreignFailure (message : String) :
      Normalizes (.ok (.foreign (.ok (some message)))) (.failure message false)
  | foreignSuccess : Normalizes (.ok (.foreign (.ok none))) (.success (-1))
  | error (e : Error) : Normalizes (.error (.error e)) (.failure e.message false)
  | panic {p : Panic} {text : String} (shown : p.text? = some text) :
      Normalizes (.error (.panic p)) (.failure ("compiler panicked: " ++ text) false)
  | silentPanic {p : Panic} (silent : p.text? = none) :
      Normalizes (.error (.panic p)) (.failure "compiler panicked" false)

/-- Whether making or running the compiler panicked. -/
def panicked : Except Fault CompileAnswer → Bool
  | .error (.panic _) => true
  | _ => false

namespace Normalizes

variable {outcome : Except Fault CompileAnswer} {result : CompileResult}

/-- Each ending has a result, or is a foreign result that panics when it is asked. -/
theorem exists_or_raises (outcome : Except Fault CompileAnswer) :
    (∃ result, Normalizes outcome result) ∨ ∃ p, outcome = .ok (.foreign (.error p)) := by
  match outcome with
  | .ok (.native result) => exact .inl ⟨_, .native result⟩
  | .ok (.foreign (.ok (some message))) => exact .inl ⟨_, .foreignFailure message⟩
  | .ok (.foreign (.ok none)) => exact .inl ⟨_, .foreignSuccess⟩
  | .ok (.foreign (.error p)) => exact .inr ⟨p, rfl⟩
  | .error (.error e) => exact .inl ⟨_, .error e⟩
  | .error (.panic p) =>
    cases text : p.text? with
    | some shown => exact .inl ⟨_, .panic text⟩
    | none => exact .inl ⟨_, .silentPanic text⟩

theorem ne_raises (normalizes : Normalizes outcome result) (p : Panic) :
    outcome ≠ .ok (.foreign (.error p)) := by
  rintro rfl
  cases normalizes

theorem unique {other : CompileResult} (normalizes : Normalizes outcome result)
    (found : Normalizes outcome other) : result = other := by
  cases normalizes with
  | panic shown =>
    cases found with
    | panic again => rw [Option.some.inj (shown.symm.trans again)]
    | silentPanic silent => cases shown.symm.trans silent
  | silentPanic silent =>
    cases found with
    | panic shown => cases silent.symm.trans shown
    | silentPanic again => rfl
  | _ => cases found; rfl

/-- Only a native failure that asks for it may be tried again. -/
theorem retry_iff (normalizes : Normalizes outcome result) :
    result.retry = true ↔ ∃ message, outcome = .ok (.native (.failure message true)) := by
  cases normalizes with
  | native result => cases result <;> simp [CompileResult.retry]
  | _ => simp [CompileResult.retry]

/-- A panic becomes a failure that is not tried again. -/
theorem eq_failure_of_panic {p : Panic} (normalizes : Normalizes (.error (.panic p)) result) :
    ∃ message, result = .failure message false := by
  cases normalizes with
  | panic shown => exact ⟨_, rfl⟩
  | silentPanic silent => exact ⟨_, rfl⟩

/-- What succeeded did not panic. -/
theorem panicked_eq_false (normalizes : Normalizes outcome result)
    (success : result.isSuccess = true) : panicked outcome = false := by
  cases normalizes with
  | panic shown => cases success
  | silentPanic silent => cases success
  | _ => rfl

end Normalizes

namespace Session

variable {W : Type} (session : Session W)

/-! ### The host program's side -/

/-- The compiler for a request: the one at hand, or else what the chosen factory makes. -/
def acquire (compiler : Option (Compiler W)) (world : W) : Except Fault (Compiler W) × W :=
  match compiler with
  | some compiler => (.ok compiler, world)
  | none => ((session.selection.factory.create session.view).runFrom world).answer

/-- How asking for a compilation ended, the compiler there is from then on, and the host program
after it. -/
def reply (request : Request) (compiler : Option (Compiler W)) (world : W) :
    Except Fault CompileAnswer × Option (Compiler W) × W :=
  match session.acquire compiler world with
  | (.error fault, world) => (.error fault, none, world)
  | (.ok compiler, world) =>
    let (outcome, world) := ((compiler.compile request).runFrom world).answer
    (outcome, some compiler, world)

/-- How asking for the compilations of a run ended, in order. -/
def outcomes (compiler : Option (Compiler W)) (world : W) :
    List Request → List (Except Fault CompileAnswer)
  | [] => []
  | request :: requests =>
    let (outcome, compiler, world) := session.reply request compiler world
    outcome :: outcomes compiler world requests

/-- The state after a reply of the host program, with the counters as they were. -/
def replied (request : Request) (s : State W) : State W :=
  { s with
    compiler := (session.reply request s.compiler s.world).2.1
    lock := s.lock.release (session.acquire s.compiler s.world).1
    world := (session.reply request s.compiler s.world).2.2 }

/-! ### One request -/

theorem answer_inWorld {α : Type} (x : Action W α) (s : State W) :
    ((inWorld x).runFrom s).answer =
      ((x.runFrom s.world).answer.1, { s with world := (x.runFrom s.world).answer.2 }) := rfl

theorem answer_count (f : Statistics → Statistics) (s : State W) :
    ((count f).runFrom s).answer = (.ok (), { s with statistics := f s.statistics }) := rfl

theorem answer_makeCompiler (s : State W) :
    (session.makeCompiler.runFrom s).answer =
      ((session.acquire s.compiler s.world).1,
        { s with
          compiler := (session.acquire s.compiler s.world).1.toOption
          world := (session.acquire s.compiler s.world).2 }) := by
  rw [makeCompiler, Action.answer_bind_of_ok (Action.answer_get s)]
  obtain ⟨world, cache, codes, made, lock, listeners, statistics⟩ := s
  cases made with
  | some compiler => rfl
  | none =>
    have first := answer_inWorld (session.selection.factory.create session.view)
      ⟨world, cache, codes, none, lock, listeners, statistics⟩
    show ((inWorld (session.selection.factory.create session.view) >>= _).runFrom _).answer = _
    simp only [acquire]
    rcases created : ((session.selection.factory.create session.view).runFrom world).answer with
      ⟨outcome, world'⟩
    rw [created] at first
    cases outcome with
    | error fault => exact Action.answer_bind_of_error first
    | ok compiler => exact Action.answer_bind_of_ok first

/-- The compiler is kept once it is made. Before that it is made whether or not the lock is
poisoned, and an attempt that panics poisons it. -/
theorem answer_compiler (s : State W) :
    (session.compiler.runFrom s).answer =
      ((session.acquire s.compiler s.world).1,
        { s with
          compiler := (session.acquire s.compiler s.world).1.toOption
          lock := s.lock.release (session.acquire s.compiler s.world).1
          world := (session.acquire s.compiler s.world).2 }) := by
  rw [compiler, Action.answer_bind_of_ok (Action.answer_get s)]
  obtain ⟨world, cache, codes, made, lock, listeners, statistics⟩ := s
  cases made with
  | some compiler => rfl
  | none =>
    show ((locked fun _ => session.makeCompiler).runFrom _).answer = _
    rw [locked, Lock.answer_holding fun _ => session.answer_makeCompiler _]

/-- Asking for a compilation touches nothing but the compiler, its lock and the host program. -/
theorem answer_ask (request : Request) (s : State W) :
    ((session.ask request).runFrom s).answer =
      ((session.reply request s.compiler s.world).1, session.replied request s) := by
  have first := session.answer_compiler s
  rw [ask, replied, reply]
  rcases acquired : session.acquire s.compiler s.world with ⟨outcome, world⟩
  rw [acquired] at first
  cases outcome with
  | error fault => exact Action.answer_bind_of_error first
  | ok compiler => exact Action.answer_bind_of_ok first

/-- The first steps of a dispatch: the request is counted, then the compiler is asked. -/
theorem answer_attempt_ask (request : Request) (s : State W) :
    ((Action.attempt (session.ask request)).runFrom
        { s with statistics := s.statistics.countRequest }).answer =
      (.ok (session.reply request s.compiler s.world).1,
        { session.replied request s with statistics := s.statistics.countRequest }) :=
  Action.answer_attempt (session.answer_ask request _)

theorem panicMessage_of_text {p : Panic} {text : String} (shown : p.text? = some text) :
    panicMessage p = "compiler panicked: " ++ text := by
  rw [panicMessage, shown]
  rfl

theorem panicMessage_of_silent {p : Panic} (silent : p.text? = none) :
    panicMessage p = "compiler panicked" := by
  rw [panicMessage, silent]

theorem answer_resultOf {outcome : Except Fault CompileAnswer} {result : CompileResult}
    (normalizes : Normalizes outcome result) (request : Request) (s : State W) :
    ((resultOf request outcome).runFrom s).answer = (.ok (result, panicked outcome), s) := by
  cases normalizes with
  | panic shown =>
    rw [← panicMessage_of_text shown]
    rfl
  | silentPanic silent =>
    rw [← panicMessage_of_silent silent]
    rfl
  | _ => rfl

/-- The counters after a request with that result. -/
def tally (result : CompileResult) (panicked : Bool) (s : Statistics) : Statistics :=
  if result.isSuccess then s.countRequest.countSuccess else s.countRequest.countFailure panicked

/-- The engine is told the result that stands for the ending, and the request is counted. -/
theorem answer_compile_of_normalizes {request : Request} {s : State W} {result : CompileResult}
    (normalizes : Normalizes (session.reply request s.compiler s.world).1 result) :
    ((session.compile request).runFrom s).answer =
      (.ok result,
        { session.replied request s with
          statistics := tally result
            (panicked (session.reply request s.compiler s.world).1) s.statistics }) := by
  rw [compile, Action.answer_bind_of_ok (answer_count _ s),
    Action.answer_bind_of_ok (session.answer_attempt_ask request s),
    Action.answer_bind_of_ok (answer_resultOf normalizes request _)]
  cases result with
  | success inlined => rfl
  | failure message retry => rfl

/-- The panic of a foreign result unwinds to the engine before the outcome is counted. -/
theorem answer_compile_of_raises {request : Request} {s : State W} {p : Panic}
    (raises : (session.reply request s.compiler s.world).1 = .ok (.foreign (.error p))) :
    ((session.compile request).runFrom s).answer =
      (.error (.panic p),
        { session.replied request s with statistics := s.statistics.countRequest }) := by
  rw [compile, Action.answer_bind_of_ok (answer_count _ s),
    Action.answer_bind_of_ok (session.answer_attempt_ask request s), raises]
  exact Action.answer_bind_of_error rfl

/-- A counted result keeps the balance of requests with successes and failures. -/
theorem tally_balance (result : CompileResult) (panicked : Bool) {s : Statistics}
    (balance : s.requests = s.successes + s.failures) :
    (tally result panicked s).requests =
      (tally result panicked s).successes + (tally result panicked s).failures := by
  cases result with
  | success inlined =>
    show s.requests + 1 = s.successes + 1 + s.failures
    rw [balance]
    ac_rfl
  | failure message retry =>
    show s.requests + 1 = s.successes + (s.failures + 1)
    rw [balance]
    ac_rfl

/-- A request that is counted alone upsets the balance. -/
theorem countRequest_unbalanced {s : Statistics} (balance : s.requests = s.successes + s.failures) :
    s.countRequest.requests ≠ s.countRequest.successes + s.countRequest.failures := by
  show s.requests + 1 ≠ s.successes + s.failures
  rw [balance]
  simp

/-- A request returns the result that stands for its ending, unless the compiler answered with a
foreign result that panics when it is asked for its failure. Then the panic unwinds to the engine,
and the requests are no longer the successes and the failures together. -/
theorem compile_returns_unless_raised (request : Request) (s : State W) :
    let outcome := (session.reply request s.compiler s.world).1
    let ended := ((session.compile request).runFrom s).answer
    (∀ result, ended.1 = .ok result ↔ Normalizes outcome result) ∧
      ((∃ result, ended.1 = .ok result) ↔ ∀ p, outcome ≠ .ok (.foreign (.error p))) ∧
      (∀ p, outcome = .error (.panic p) → ∃ message, ended.1 = .ok (.failure message false)) ∧
      (∀ p, outcome = .ok (.foreign (.error p)) → ended.1 = .error (.panic p)) ∧
      (s.statistics.requests = s.statistics.successes + s.statistics.failures →
        (ended.2.statistics.requests =
            ended.2.statistics.successes + ended.2.statistics.failures ↔
          ∀ p, outcome ≠ .ok (.foreign (.error p)))) := by
  intro outcome ended
  rcases Normalizes.exists_or_raises outcome with ⟨result, normalizes⟩ | ⟨p, raises⟩
  · have told : ended = (.ok result, _) := session.answer_compile_of_normalizes normalizes
    have returns : ∀ p, outcome ≠ .ok (.foreign (.error p)) := normalizes.ne_raises
    rw [told]
    refine ⟨?_, ?_, ?_, ?_, ?_⟩
    · intro other
      constructor
      · intro same
        cases same
        exact normalizes
      · intro found
        rw [normalizes.unique found]
    · simp only [returns, ne_eq, not_false_eq_true, implies_true, iff_true]
      exact ⟨result, rfl⟩
    · intro p panics
      rw [panics] at normalizes
      obtain ⟨message, rfl⟩ := normalizes.eq_failure_of_panic
      exact ⟨message, rfl⟩
    · intro p raises
      exact absurd raises (returns p)
    · intro balance
      simp only [returns, ne_eq, not_false_eq_true, implies_true, iff_true]
      exact tally_balance result _ balance
  · have told : ended = (.error (.panic p), _) := session.answer_compile_of_raises raises
    have unbalanced : ¬ ∀ p, outcome ≠ .ok (.foreign (.error p)) := by
      intro returns
      exact returns p raises
    rw [told]
    refine ⟨?_, ?_, ?_, ?_, ?_⟩
    · intro other
      constructor
      · nofun
      · intro found
        exact absurd raises (found.ne_raises p)
    · simp only [unbalanced, iff_false]
      rintro ⟨other, same⟩
      cases same
    · intro other panics
      rw [raises] at panics
      cases panics
    · intro other same
      rw [raises] at same
      cases same
      rfl
    · intro balance
      simp only [unbalanced, iff_false]
      exact countRequest_unbalanced balance

/-- Started with one compiler, which does what `compile` says. -/
def planOf (compile : Request → Action Unit CompileAnswer) : Plan Unit where
  services := (Services.builtin .bytewise).addCompiler
    { name := "demo", create := fun _ => pure { serial := 1, compile } }
  options := Options.set {} .compiler "demo"

/-- Asks for a method to be compiled from its start. -/
def requestOf (id : Int32) : Request :=
  ⟨⟨"demo.Main", "run", ⟨"()V", [], .void⟩⟩, invocationEntry, 0, id⟩

/-- Whether the plan starts a session that passes a check. -/
def starts (plan : Plan Unit) (check : Session Unit → Bool) : Bool :=
  match (plan.start.runFrom { world := () }).answer.1 with
  | .ok (.running session) => check session
  | _ => false

/-- A session holds functions, so what it does is decided where the startup leaves one. -/
theorem exists_running_of_starts {plan : Plan Unit} {check : Session Unit → Bool}
    (passed : starts plan check = true) :
    ∃ session, (plan.start.runFrom { world := () }).answer.1 = .ok (.running session) ∧
      check session = true := by
  rw [starts] at passed
  split at passed
  · rename_i session started
    exact ⟨session, started, passed⟩
  · cases passed

/-! ### Runs -/

/-- The state after a run of requests. -/
def after (s : State W) : List Request → State W
  | [] => s
  | request :: requests => after ((session.compile request).runFrom s).answer.2 requests

/-- How the requests of a run ended for the engine, in order. -/
def results (s : State W) : List Request → List (Except Fault CompileResult)
  | [] => []
  | request :: requests =>
    ((session.compile request).runFrom s).answer.1 ::
      results ((session.compile request).runFrom s).answer.2 requests

theorem results_take (s : State W) (requests : List Request) (k : Nat) :
    session.results s (requests.take k) = (session.results s requests).take k := by
  induction requests generalizing s k with
  | nil => simp [results]
  | cons request requests ih =>
    cases k with
    | zero => rfl
    | succ k => simp only [List.take_succ_cons, results, ih]

theorem outcomes_take (compiler : Option (Compiler W)) (world : W) (requests : List Request)
    (k : Nat) :
    session.outcomes compiler world (requests.take k) =
      (session.outcomes compiler world requests).take k := by
  induction requests generalizing compiler world k with
  | nil => simp [outcomes]
  | cons request requests ih =>
    cases k with
    | zero => rfl
    | succ k => simp only [List.take_succ_cons, outcomes, ih]

theorem length_results (s : State W) (requests : List Request) :
    (session.results s requests).length = requests.length := by
  induction requests generalizing s with
  | nil => rfl
  | cons request requests ih => simp only [results, List.length_cons, ih]

/-- What a run adds to the counters: its requests, its successes, its failures and its panics. -/
structure Counted (before after : Statistics) (outcomes : List (Except Fault CompileAnswer))
    (results : List CompileResult) : Prop where
  requests : after.requests = before.requests + UInt64.ofNat results.length
  successes : after.successes = before.successes + UInt64.ofNat (results.countP (·.isSuccess))
  failures : after.failures = before.failures + UInt64.ofNat (results.countP (!·.isSuccess))
  panics : after.panics = before.panics + UInt64.ofNat (outcomes.countP panicked)

theorem Counted.nil (s : Statistics) : Counted s s [] [] := by
  constructor <;> simp

/-- The tally of the first request, and the counts of the rest. -/
theorem Counted.cons {before after : Statistics} {outcome : Except Fault CompileAnswer}
    {outcomes : List (Except Fault CompileAnswer)} {result : CompileResult}
    {results : List CompileResult} (normalizes : Normalizes outcome result)
    (rest : Counted (tally result (panicked outcome) before) after outcomes results) :
    Counted before after (outcome :: outcomes) (result :: results) := by
  have next (n : UInt64) (m : Nat) : n + 1 + UInt64.ofNat m = n + UInt64.ofNat (m + 1) := by
    rw [UInt64.ofNat_add, UInt64.add_assoc, UInt64.add_comm 1]
    rfl
  obtain ⟨requests, successes, failures, panics⟩ := rest
  cases result with
  | success inlined =>
    have silent : panicked outcome = false := normalizes.panicked_eq_false rfl
    constructor
    · exact requests.trans (next _ _)
    · rw [List.countP_cons_of_pos rfl]
      exact successes.trans (next _ _)
    · exact failures
    · rw [panics, List.countP_cons_of_neg (by simp [silent])]
      rfl
  | failure message retry =>
    constructor
    · exact requests.trans (next _ _)
    · exact successes
    · rw [List.countP_cons_of_pos rfl]
      exact failures.trans (next _ _)
    · cases panics' : panicked outcome with
      | true =>
        rw [panics, List.countP_cons_of_pos panics', panics']
        exact next _ _
      | false =>
        rw [panics, List.countP_cons_of_neg (by simp [panics']), panics']
        rfl

/-- Counted from zero, and fewer than the counters can hold, they are the numbers themselves. -/
theorem Counted.toNat_eq {after : Statistics} {outcomes : List (Except Fault CompileAnswer)}
    {results : List CompileResult} {k : Nat} (counted : Counted {} after outcomes results)
    (length : results.length = k) (length' : outcomes.length = k) (fits : k < UInt64.size) :
    after.requests.toNat = k ∧
      after.successes.toNat = results.countP (·.isSuccess) ∧
      after.failures.toNat = results.countP (!·.isSuccess) ∧
      after.panics.toNat = outcomes.countP panicked := by
  have held {n : Nat} (bound : n ≤ k) : (0 + UInt64.ofNat n).toNat = n := by
    rw [UInt64.zero_add, UInt64.toNat_ofNat_of_lt' (Nat.lt_of_le_of_lt bound fits)]
  rw [counted.requests, counted.successes, counted.failures, counted.panics, length]
  exact ⟨held (Nat.le_refl k), held (length ▸ List.countP_le_length),
    held (length ▸ List.countP_le_length), held (length' ▸ List.countP_le_length)⟩

/-- Along a run in which no foreign result panics, every request returns the result that stands for
its ending, and every result is counted. The induction is on the requests, from any state. -/
theorem run_normalizes (requests : List Request) (s : State W)
    (returns : ∀ outcome ∈ session.outcomes s.compiler s.world requests,
      ∀ p, outcome ≠ .ok (.foreign (.error p))) :
    ∃ results, session.results s requests = results.map .ok ∧
      List.Forall₂ Normalizes (session.outcomes s.compiler s.world requests) results ∧
      Counted s.statistics (session.after s requests).statistics
        (session.outcomes s.compiler s.world requests) results := by
  induction requests generalizing s with
  | nil => exact ⟨[], rfl, .nil, .nil _⟩
  | cons request requests ih =>
    simp only [outcomes, List.forall_mem_cons] at returns
    obtain ⟨here, later⟩ := returns
    obtain ⟨result, normalizes⟩ :=
      (Normalizes.exists_or_raises _).resolve_right fun ⟨p, raises⟩ => here p raises
    have told := session.answer_compile_of_normalizes normalizes
    obtain ⟨rest, returned, normalize, counted⟩ :=
      ih ((session.compile request).runFrom s).answer.2 (by rw [told]; exact later)
    rw [told] at normalize counted
    refine ⟨result :: rest, ?_, .cons normalizes normalize, ?_⟩
    · rw [results, returned, told]
      rfl
    · rw [after, told]
      exact .cons normalizes counted

/-- In a run from the start of a session in which no foreign result panics, every request returns
the result that stands for its ending, and may be tried again only if a native failure asks for it.
After each request the counters are the numbers of requests, of successes, of failures and of panics
so far. -/
theorem results_normalize (world : W) (requests : List Request)
    (returns : ∀ outcome ∈ session.outcomes none world requests,
      ∀ p, outcome ≠ .ok (.foreign (.error p)))
    (fits : requests.length < UInt64.size) :
    ∃ results, session.results (session.initial world) requests = results.map .ok ∧
      List.Forall₂ Normalizes (session.outcomes none world requests) results ∧
      List.Forall₂
        (fun outcome result =>
          result.retry = true ↔ ∃ message, outcome = .ok (.native (.failure message true)))
        (session.outcomes none world requests) results ∧
      ∀ k ≤ requests.length,
        let counters := (session.after (session.initial world) (requests.take k)).statistics
        counters.requests.toNat = k ∧
          counters.successes.toNat = (results.take k).countP (·.isSuccess) ∧
          counters.failures.toNat = (results.take k).countP (!·.isSuccess) ∧
          counters.panics.toNat =
            ((session.outcomes none world requests).take k).countP panicked := by
  obtain ⟨results, returned, normalize, -⟩ :=
    session.run_normalizes requests (session.initial world) returns
  refine ⟨results, returned, normalize, normalize.imp fun _ _ => Normalizes.retry_iff, ?_⟩
  intro k within counters
  obtain ⟨first, returned', normalize', counted⟩ :=
    session.run_normalizes (requests.take k) (session.initial world) fun outcome mem =>
      returns outcome (List.mem_of_mem_take (session.outcomes_take .. ▸ mem))
  have length : first.length = k :=
    calc first.length = (session.results _ (requests.take k)).length := by
          rw [returned', List.length_map]
      _ = k := by rw [length_results, List.length_take_of_le within]
  have same : first = results.take k := by
    rw [results_take, returned, ← List.map_take] at returned'
    exact (List.map_inj_right fun _ _ => Except.ok.inj).mp returned'.symm
  rw [← session.outcomes_take, ← same]
  exact counted.toNat_eq length (normalize'.length_eq.trans length)
    (Nat.lt_of_le_of_lt within fits)

/-- A native failure that asks for another try, a foreign failure, a panic with a text and one
without, in the first four requests of a session. -/
theorem results_normalize_of_failures :
    let plan := planOf fun request =>
      if request.id = 1 then pure (.native (.failure "busy" true))
      else if request.id = 2 then pure (.foreign (.ok (some "declined")))
      else if request.id = 3 then Action.panic (.raised "no registers")
      else Action.panic .textless
    let requests := [requestOf 1, requestOf 2, requestOf 3, requestOf 4]
    ∃ session, (plan.start.runFrom { world := () }).answer.1 = .ok (.running session) ∧
      requests.length < UInt64.size ∧
      session.outcomes none () requests =
        [.ok (.native (.failure "busy" true)), .ok (.foreign (.ok (some "declined"))),
          .error (.panic (.raised "no registers")), .error (.panic .textless)] ∧
      session.results (session.initial ()) requests =
        [.ok (.failure "busy" true), .ok (.failure "declined" false),
          .ok (.failure "compiler panicked: no registers" false),
          .ok (.failure "compiler panicked" false)] ∧
      let counters := (session.after (session.initial ()) requests).statistics
      counters.requests.toNat = 4 ∧ counters.successes.toNat = 0 ∧
        counters.failures.toNat = 4 ∧ counters.panics.toNat = 2 := by
  intro plan requests
  have passed : starts plan (fun session => decide (session.outcomes none () requests =
      [.ok (.native (.failure "busy" true)), .ok (.foreign (.ok (some "declined"))),
        .error (.panic (.raised "no registers")), .error (.panic .textless)])) = true := by
    decide +kernel
  obtain ⟨session, started, held⟩ := exists_running_of_starts passed
  have outcomes := of_decide_eq_true held
  obtain ⟨results, returned, normalize, -, counted⟩ :=
    session.results_normalize () requests (by simp [outcomes]) (by decide)
  rw [outcomes] at normalize
  have text : "compiler panicked: " ++ "no registers" = "compiler panicked: no registers" := by
    decide
  have raised : Normalizes (.error (.panic (.raised "no registers")))
      (.failure "compiler panicked: no registers" false) := by
    rw [← text]
    exact .panic rfl
  have told : List.Forall₂ Normalizes
      [.ok (.native (.failure "busy" true)), .ok (.foreign (.ok (some "declined"))),
        .error (.panic (.raised "no registers")), .error (.panic .textless)]
      [.failure "busy" true, .failure "declined" false,
        .failure "compiler panicked: no registers" false, .failure "compiler panicked" false] :=
    .cons (.native _) (.cons (.foreignFailure _) (.cons raised (.cons (.silentPanic rfl) .nil)))
  have unique : Relator.RightUnique Normalizes := fun _ _ _ => Normalizes.unique
  obtain rfl := unique.forall₂ normalize told
  have whole : requests.take 4 = requests := rfl
  have last := counted 4 (Nat.le_refl 4)
  rw [outcomes, whole] at last
  exact ⟨session, started, by decide, outcomes, returned, last⟩

end Session
end JitBridge
