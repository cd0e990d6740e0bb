import JitBridge.Proofs.Backend.Builtin
import JitBridge.Proofs.Options.Slots
import JitBridge.Session.Startup

/-!
How a startup ends, from what the factories of the host program do. Two lists of candidates are
searched, each for its first match (`IsFirst`): the backend factories by the name of the host in any
case (`Plan.Hosts`), the compiler factories by the exact name that was asked for.

`Plan.Leads` follows the stages one by one, whatever timers run around them. `Plan.Fails` is the
order in which stages fail, and `Plan.Selects` what the choice of a compiler factory does to the
host program. `Plan.start_ends_at_first_failure` says that a startup comes to one of the two.
-/

namespace JitBridge

/-! ### Changing an answer -/

namespace Action

variable {σ α β : Type} (f : α → β) (x : Action σ α)

theorem runFrom_map (s : σ) :
    (f <$> x).runFrom s = (fun ended => (ended.1.map f, ended.2)) <$> x.runFrom s := by
  rw [map_eq_pure_bind, runFrom_bind, map_eq_pure_bind]
  refine congrArg _ (funext fun ended => ?_)
  rcases ended with ⟨fault | a, s'⟩
  · rfl
  · rfl

/-- An action can be attempted before or after its answer is changed. -/
theorem attempt_map : attempt (f <$> x) = Except.map f <$> attempt x := by
  funext s
  show (attempt (f <$> x)).runFrom s = (Except.map f <$> attempt x).runFrom s
  rw [runFrom_map, runFrom_attempt, runFrom_attempt, runFrom_map, Functor.map_map, Functor.map_map]
  rfl

end Action

/-! ### First matches -/

/-- Of the elements of a list that pass a test, the first, and its place. -/
structure IsFirst {α : Type} (test : α → Bool) (list : List α) (place : Nat) (a : α) : Prop where
  found : list[place]? = some a
  passes : test a = true
  skipped : ∀ other ∈ list.take place, test other = false

theorem find?_zipIdx_eq_some_iff {α : Type} {test : α → Bool} {list : List α} {place : Nat}
    {a : α} :
    list.zipIdx.find? (fun entry => test entry.1) = some (a, place) ↔
      IsFirst test list place a := by
  rw [List.find?_eq_some_iff_getElem]
  constructor
  · rintro ⟨passes, i, inside, own, skipped⟩
    rw [List.getElem_zipIdx, Prod.mk.injEq, Nat.zero_add] at own
    obtain ⟨rfl, rfl⟩ := own
    rw [List.length_zipIdx] at inside
    refine ⟨List.getElem?_eq_getElem inside, passes, fun other mem => ?_⟩
    obtain ⟨j, before, rfl⟩ := List.mem_take_iff_getElem.mp mem
    simpa using skipped j (by omega)
  · rintro ⟨found, passes, skipped⟩
    obtain ⟨inside, rfl⟩ := List.getElem?_eq_some_iff.mp found
    refine ⟨passes, place, by rwa [List.length_zipIdx], by simp, fun j before => ?_⟩
    rw [List.getElem_zipIdx, Bool.not_eq_true']
    exact skipped _ (List.mem_take_iff_getElem.mpr ⟨j, by omega, rfl⟩)

theorem find?_zipIdx_eq_none_iff {α : Type} {test : α → Bool} {list : List α} :
    list.zipIdx.find? (fun entry => test entry.1) = none ↔ ∀ a ∈ list, test a = false := by
  rw [List.find?_eq_none]
  constructor
  · intro none a mem
    obtain ⟨place, inside, rfl⟩ := List.mem_iff_getElem.mp mem
    exact Bool.eq_false_iff.mpr (none (list[place], place)
      (List.mk_mem_zipIdx_iff_getElem?.mpr (List.getElem?_eq_getElem inside)))
  · rintro none ⟨a, place⟩ mem
    exact Bool.eq_false_iff.mp (none a (List.fst_mem_of_mem_zipIdx mem))

theorem none_or_isFirst {α : Type} (test : α → Bool) (list : List α) :
    (∀ a ∈ list, test a = false) ∨ ∃ place a, IsFirst test list place a := by
  cases found : list.zipIdx.find? (fun entry => test entry.1) with
  | none => exact .inl (find?_zipIdx_eq_none_iff.mp found)
  | some entry => exact .inr ⟨entry.2, entry.1, find?_zipIdx_eq_some_iff.mp found⟩

namespace Plan

variable {W α β : Type}

/-! ### Stages -/

/-- From a state of the host program, an action ends with an outcome and leaves the host program in
a state, and it leaves as many timers running as there were. -/
def Leads (x : Action (State W) α) (world : W) (outcome : Except Fault α) (world' : W) : Prop :=
  ∀ depth, (x.runFrom ⟨world, depth⟩).answer = (outcome, ⟨world', depth⟩)

namespace Leads

variable {x : Action (State W) α} {f : α → Action (State W) β} {world world' world'' : W}

theorem ofExcept (outcome : Except Fault α) (world : W) :
    Leads (Action.ofExcept outcome) world outcome world :=
  fun _ => rfl

theorem pure (a : α) (world : W) : Leads (Pure.pure a) world (.ok a) world := fun _ => rfl

theorem bind {a : α} {outcome : Except Fault β} (first : Leads x world (.ok a) world')
    (rest : Leads (f a) world' outcome world'') : Leads (x >>= f) world outcome world'' :=
  fun depth => (Action.answer_bind_of_ok (first depth)).trans (rest depth)

theorem bind_error {fault : Fault} (first : Leads x world (.error fault) world') :
    Leads (x >>= f) world (.error fault) world' :=
  fun depth => Action.answer_bind_of_error (first depth)

theorem attempt {outcome : Except Fault α} (stage : Leads x world outcome world') :
    Leads (Action.attempt x) world (.ok outcome) world' :=
  fun depth => Action.answer_attempt (stage depth)

end Leads

/-- A timer that finishes leaves as many timers running as there were when it started. -/
theorem exists_timer (enabled : Bool) (label : String) (world : W) (depth : Nat) :
    ∃ timer within, ((startTimer enabled label).runFrom ⟨world, depth⟩).answer =
        (.ok timer, ⟨world, within⟩) ∧
      ∀ world' : W, ((finishTimer timer).runFrom ⟨world', within⟩).answer =
        (.ok (), ⟨world', depth⟩) := by
  cases enabled with
  | false => exact ⟨⟨none⟩, depth, rfl, fun _ => rfl⟩
  | true => exact ⟨⟨some label⟩, depth + 1, rfl, fun _ => rfl⟩

/-- A stage ends under a timer as it does without. -/
theorem Leads.timed {x : Action (State W) α} {world world' : W} {outcome : Except Fault α}
    (stage : Leads x world outcome world') (enabled : Bool) (label : String) :
    Leads (Plan.timed enabled label x) world outcome world' := by
  intro depth
  obtain ⟨timer, within, started, finished⟩ := exists_timer enabled label world depth
  rw [Plan.timed, Action.answer_bind_of_ok started,
    Action.answer_bind_of_ok (stage.attempt within), Action.answer_bind_of_ok (finished world')]
  rfl

variable {plan : Plan W} {world world' : W}

theorem start_eq_startTimed {timing : Bool} (own : plan.options.value .initTimer = .bool timing) :
    plan.start = plan.startTimed timing := by
  rw [start, Options.initTimer, Options.getBool_of_value own]
  rfl

/-- The timer around all stages finishes too, unless the process has ended. -/
theorem leads_start {outcome : Except Fault (Started W)}
    (stages : ∀ timing, Leads (plan.stages timing) world outcome world')
    (running : outcome ≠ .ok .exited) : Leads plan.start world outcome world' := by
  intro depth
  obtain ⟨timing, own⟩ := plan.options.exists_bool .initTimer rfl
  obtain ⟨timer, within, started, finished⟩ := exists_timer timing "Runtime<init>" world depth
  rw [start_eq_startTimed own, startTimed, Action.answer_bind_of_ok started,
    Action.answer_bind_of_ok ((stages timing).attempt within)]
  split
  · exact absurd rfl running
  · rw [Action.answer_bind_of_ok (finished world')]
    rfl

/-! ### The stages of a plan -/

/-- A factory has the name of the host, the case of ASCII letters aside. -/
def Hosts (plan : Plan W) (factory : BackendFactory) : Prop :=
  factory.architecture.toList.map Char.toLower =
    plan.vm.hostArchitecture.toList.map Char.toLower

instance (plan : Plan W) (factory : BackendFactory) : Decidable (plan.Hosts factory) :=
  inferInstanceAs (Decidable (_ = _))

/-- A factory is the first with the name of the host. -/
def FirstHosts (plan : Plan W) (place : Nat) (factory : BackendFactory) : Prop :=
  IsFirst (fun factory => decide (plan.Hosts factory)) plan.services.backends place factory

theorem answersTo_eq_decide (plan : Plan W) (factory : BackendFactory) :
    factory.answersTo plan.vm.hostArchitecture = decide (plan.Hosts factory) :=
  Bool.eq_iff_iff.mpr (beq_iff_eq.trans decide_eq_true_iff.symm)

theorem leads_findFactory_of_none (none : ∀ factory ∈ plan.services.backends, ¬plan.Hosts factory) :
    Leads plan.findFactory world
      (.error (.error (.unsupportedArchitecture plan.vm.hostArchitecture))) world := by
  have found := find?_zipIdx_eq_none_iff.mpr fun factory mem => decide_eq_false (none factory mem)
  simp only [findFactory, BackendFactory.find, answersTo_eq_decide, found]
  exact .ofExcept _ world

theorem findFactory_of_firstHosts {place : Nat} {factory : BackendFactory}
    (first : plan.FirstHosts place factory) :
    plan.findFactory = Action.ofExcept (.ok factory) := by
  have found := find?_zipIdx_eq_some_iff.mpr first
  simp only [findFactory, BackendFactory.find, answersTo_eq_decide, found]

theorem leads_createBackend_of_error {factory : BackendFactory} {fault : Fault}
    (failed : (factory.create plan.vm).run.answer = .error fault) :
    Leads (plan.createBackend factory) world (.error fault) world := by
  intro depth
  rw [createBackend, Action.answer_bind_of_ok (Action.answer_ofEmit ..), failed]
  rfl

/-- The registry of a startup, which has the host backend alone. -/
def registryOf (backend : Backend) : BackendRegistry := ⟨.insert ∅ backend.arch backend⟩

theorem leads_createBackend {factory : BackendFactory} {backend : Backend}
    (created : (factory.create plan.vm).run.answer = .ok backend) :
    Leads (plan.createBackend factory) world
      (.ok (plan.withExecutor backend, registryOf (plan.withExecutor backend))) world := by
  intro depth
  rw [createBackend, Action.answer_bind_of_ok (Action.answer_ofEmit ..), created]
  rfl

theorem flag_of_value {key : OptionKey} {value : Bool}
    (own : plan.options.value key = .bool value) : plan.flag key = pure value := by
  rw [flag, Options.getBool_of_value own]
  rfl

/-- Without the two options that end the process, printing changes nothing. -/
theorem leads_printOptions (flags : plan.options.value .printFlags = .bool false)
    (config : plan.options.value .printConfig = .bool false) :
    Leads plan.printOptions world (.ok false) world := by
  intro depth
  obtain ⟨shown, own⟩ := plan.options.exists_bool .showFlags rfl
  rw [printOptions, flag_of_value flags, flag_of_value config, flag_of_value own]
  cases shown <;> rfl

/-- The name that the options give is searched for. -/
theorem selectFactory_of_value {requested : Option String}
    (own : plan.options.value .compiler = .text requested) :
    plan.selectFactory = Action.zoom (·.world) (fun world s => { s with world }) (do
      let (selection, _) ← Resolver.getOrResolve {} requested plan.services.compilers
      return selection) := by
  rw [selectFactory, Options.compiler, Options.getString_of_value own]
  rfl

theorem leads_selectFactory_of_unset (unset : plan.options.value .compiler = .text none) :
    Leads plan.selectFactory world (.ok ⟨none, .stub⟩) world := by
  intro depth
  rw [selectFactory_of_value unset]
  rfl

theorem leads_selectFactory_of_none {name : String}
    (requested : plan.options.value .compiler = .text (some name))
    (none : ∀ factory ∈ plan.services.compilers, factory.name ≠ name) :
    Leads plan.selectFactory world (.error (.error (.compilerNotFound name))) world := by
  intro depth
  have missing : Selection.find? name plan.services.compilers = Option.none := by
    have skipped : ∀ factory ∈ plan.services.compilers, (factory.name == name) = false :=
      fun factory mem => beq_eq_false_iff_ne.mpr (none factory mem)
    rw [Selection.find?, find?_zipIdx_eq_none_iff.mpr skipped]
    rfl
  rw [selectFactory_of_value requested]
  simp only [Resolver.getOrResolve, Selection.select, missing]
  rfl

/-- The first factory of the requested name is told that it is chosen. -/
theorem leads_selectFactory {name : String} {place : Nat} {factory : CompilerFactory W}
    (requested : plan.options.value .compiler = .text (some name))
    (first : IsFirst (·.name == name) plan.services.compilers place factory) :
    Leads plan.selectFactory world (.ok ⟨some place, factory⟩) (factory.onSelection world) := by
  intro depth
  have found : Selection.find? name plan.services.compilers = some ⟨some place, factory⟩ := by
    rw [Selection.find?, find?_zipIdx_eq_some_iff.mpr first]
    rfl
  rw [selectFactory_of_value requested]
  simp only [Resolver.getOrResolve, Selection.select, found]
  rfl

/-! ### How a startup ends -/

/-- The backend of the host: what the first factory with the host's name makes. -/
def MakesHost (plan : Plan W) (made : Except Fault Backend) : Prop :=
  ∃ place factory,
    plan.FirstHosts place factory ∧ (factory.create plan.vm).run.answer = made

/-- The fault of the first stage that fails. -/
inductive Fails (plan : Plan W) : Fault → Prop
  | unsupported (none : ∀ factory ∈ plan.services.backends, ¬plan.Hosts factory) :
      Fails plan (.error (.unsupportedArchitecture plan.vm.hostArchitecture))
  | create {fault : Fault} (made : plan.MakesHost (.error fault)) : Fails plan fault
  | compilerNotFound {backend : Backend} {name : String} (made : plan.MakesHost (.ok backend))
      (requested : plan.options.value .compiler = .text (some name))
      (none : ∀ factory ∈ plan.services.compilers, factory.name ≠ name) :
      Fails plan (.error (.compilerNotFound name))

/-- The compiler factory that a plan chooses, and what that does to the host program. -/
inductive Selects (plan : Plan W) (world : W) : Selection W → W → Prop
  | stub (unset : plan.options.value .compiler = .text none) :
      Selects plan world ⟨none, .stub⟩ world
  | requested {name : String} {place : Nat} {factory : CompilerFactory W}
      (requested : plan.options.value .compiler = .text (some name))
      (first : IsFirst (·.name == name) plan.services.compilers place factory) :
      Selects plan world ⟨some place, factory⟩ (factory.onSelection world)

/-- A plan leads to one of the faults, or to a host backend and a chosen factory. -/
theorem fails_or_selects (plan : Plan W) (world : W) :
    (∃ fault, plan.Fails fault) ∨
      ∃ backend selection world', plan.MakesHost (.ok backend) ∧
        plan.Selects world selection world' := by
  rcases none_or_isFirst (fun factory => decide (plan.Hosts factory)) plan.services.backends with
    none | ⟨place, factory, first⟩
  · exact .inl ⟨_, .unsupported fun factory mem => of_decide_eq_false (none factory mem)⟩
  cases made : (factory.create plan.vm).run.answer with
  | error fault => exact .inl ⟨fault, .create ⟨place, factory, first, made⟩⟩
  | ok backend =>
    have host : plan.MakesHost (.ok backend) := ⟨place, factory, first, made⟩
    obtain ⟨requested, own⟩ := plan.options.exists_text .compiler rfl
    cases requested with
    | none => exact .inr ⟨backend, _, _, host, .stub own⟩
    | some name =>
      rcases none_or_isFirst (·.name == name) plan.services.compilers with
        none | ⟨place, factory, first⟩
      · exact .inl ⟨_, .compilerNotFound host own fun factory mem =>
          beq_eq_false_iff_ne.mp (none factory mem)⟩
      · exact .inr ⟨backend, _, _, host, .requested own first⟩

theorem Selects.leads_selectFactory {selection : Selection W}
    (selects : plan.Selects world selection world') :
    Leads plan.selectFactory world (.ok selection) world' := by
  cases selects with
  | stub unset => exact leads_selectFactory_of_unset unset
  | requested requested first => exact Plan.leads_selectFactory requested first

section

variable (flags : plan.options.value .printFlags = .bool false)
  (config : plan.options.value .printConfig = .bool false)

include flags config

/-- A stage that fails ends the startup before any factory is told that it is chosen. -/
theorem Fails.leads_stages {fault : Fault} (fails : plan.Fails fault) (world : W) (timing : Bool) :
    Leads (plan.stages timing) world (.error fault) world := by
  cases fails with
  | unsupported none => exact ((leads_findFactory_of_none none).timed _ _).bind_error
  | create made =>
    obtain ⟨place, factory, first, made⟩ := made
    rw [stages, findFactory_of_firstHosts first]
    exact ((Leads.ofExcept _ world).timed _ _).bind
      ((leads_createBackend_of_error made).timed _ _).bind_error
  | compilerNotFound made requested none =>
    obtain ⟨place, factory, first, made⟩ := made
    rw [stages, findFactory_of_firstHosts first]
    exact ((Leads.ofExcept _ world).timed _ _).bind
      (((leads_createBackend made).timed _ _).bind
        ((leads_printOptions flags config).bind
          ((leads_selectFactory_of_none requested none).timed _ _).bind_error))

/-- Where no stage fails the session is running. -/
theorem leads_stages {backend : Backend} {selection : Selection W}
    (made : plan.MakesHost (.ok backend)) (selects : plan.Selects world selection world')
    (timing : Bool) :
    Leads (plan.stages timing) world (.ok (.running (plan.session (plan.withExecutor backend)
      (registryOf (plan.withExecutor backend)) selection))) world' := by
  obtain ⟨place, factory, first, made⟩ := made
  rw [stages, findFactory_of_firstHosts first]
  exact ((Leads.ofExcept _ world).timed _ _).bind
    (((leads_createBackend made).timed _ _).bind
      ((leads_printOptions flags config).bind
        ((selects.leads_selectFactory.timed _ _).bind fun _ => rfl)))

/-- Over the built-in backends a plan for the default host starts if its factory is found and it
does more than print. -/
theorem exists_starts {decoder : Decoder} {selection : Selection W} (vm : plan.vm = {})
    (backends : plan.services.backends = BackendFactory.builtin decoder)
    (selects : plan.Selects world selection world') :
    ∃ backend, (plan.start.runFrom { world }).answer =
      (.ok (.running (plan.session backend (registryOf backend) selection)),
        { world := world' }) := by
  obtain ⟨backend, created⟩ :=
    (BackendFactory.isFor_amd64 decoder).exists_backend (show plan.vm.wordSize = 8 from vm ▸ rfl)
  have hosts : plan.Hosts (.amd64 decoder) := by
    rw [Hosts, vm]
    rfl
  have host : plan.MakesHost (.ok backend) :=
    ⟨0, .amd64 decoder, ⟨backends ▸ rfl, decide_eq_true hosts, nofun⟩, created⟩
  exact ⟨_, leads_start (leads_stages flags config host selects) nofun 0⟩

end

/-! ### One backend factory alone -/

/-- The plan without any other backend factory. -/
def alone (plan : Plan W) (factory : BackendFactory) : Plan W :=
  { plan with services := { plan.services with backends := [factory] } }

end Plan

/-- The same ending, with other services in the session. -/
def Started.withServices {W : Type} (services : Services W) : Started W → Started W
  | running session => running { session with services }
  | exited => exited

namespace Plan

variable {W : Type} {plan : Plan W}

theorem stages_eq_alone {place : Nat} {factory : BackendFactory}
    (first : plan.FirstHosts place factory) (timing : Bool) :
    plan.stages timing =
      Started.withServices plan.services <$> (plan.alone factory).stages timing := by
  have only : (plan.alone factory).FirstHosts 0 factory := ⟨rfl, first.passes, nofun⟩
  rw [stages, stages, findFactory_of_firstHosts first, findFactory_of_firstHosts only]
  simp only [map_bind]
  refine congrArg _ (funext fun factory => congrArg _ (funext fun made =>
    congrArg _ (funext fun exits => ?_)))
  cases exits with
  | true =>
    simp only [if_true, map_pure]
    rfl
  | false =>
    simp only [Bool.false_eq_true, if_false, map_bind, map_pure]
    rfl

/-- No other backend factory is tried: a startup is that of the plan without the others. -/
theorem start_eq_alone {place : Nat} {factory : BackendFactory}
    (first : plan.FirstHosts place factory) :
    plan.start = Started.withServices plan.services <$> (plan.alone factory).start := by
  obtain ⟨timing, own⟩ := plan.options.exists_bool .initTimer rfl
  have attempted : Action.attempt (plan.stages timing) =
      Except.map (Started.withServices plan.services) <$>
        Action.attempt ((plan.alone factory).stages timing) := by
    rw [stages_eq_alone first, Action.attempt_map]
  have same : (plan.alone factory).options.value .initTimer = .bool timing := own
  rw [start_eq_startTimed own, start_eq_startTimed same, startTimed, startTimed, attempted]
  simp only [map_bind, bind_map_left]
  refine congrArg _ (funext fun timer => congrArg _ (funext fun outcome => ?_))
  rcases outcome with fault | ⟨session⟩ | _
  · simp only [map_bind]
    rfl
  · simp only [map_bind]
    rfl
  · rfl

/-! ### Startups -/

/-- What a session that a plan started is made of: the host backend alone is registered, and what
the chosen factory has no hooks for is left out. -/
structure Serves (plan : Plan W) (backend : Backend) (selection : Selection W)
    (session : Session W) : Prop where
  host : session.host = plan.withExecutor backend
  registered : session.backends.toList = [(session.host.arch, session.host)]
  chosen : session.selection = selection
  adjustment : session.adjustment = match selection.factory.hooks with
    | some hooks => hooks.adjustment
    | none => .none
  trivialPrefixes : session.trivialPrefixes = match selection.factory.hooks with
    | some hooks => some hooks.trivialPrefixes
    | none => none
  given : session.vm = plan.vm ∧ session.options = plan.options ∧
    session.services = plan.services ∧ session.types = plan.types

theorem serves_session (plan : Plan W) (backend : Backend) (selection : Selection W) :
    plan.Serves backend selection (plan.session (plan.withExecutor backend)
      (registryOf (plan.withExecutor backend)) selection) where
  host := rfl
  registered := rfl
  chosen := rfl
  adjustment := by
    rw [Plan.session]
    cases selection.factory.hooks <;> rfl
  trivialPrefixes := by
    rw [Plan.session]
    cases selection.factory.hooks <;> rfl
  given := ⟨rfl, rfl, rfl, rfl⟩

/-- Of the stages of a startup that prints and exits for no option, the first that fails gives its
fault, and then no factory was told that it is chosen. Where none fails there is a session over the
host backend and the chosen factory, which was told once if it was asked for by name. No backend
factory is tried but the first with the host's name. -/
theorem start_ends_at_first_failure (plan : Plan W) (s : State W)
    (flags : plan.options.value .printFlags = .bool false)
    (config : plan.options.value .printConfig = .bool false) :
    let ended := (plan.start.runFrom s).answer
    (∀ fault, ended.1 = .error fault ↔ plan.Fails fault) ∧
      (∀ fault, ended.1 = .error fault → ended.2 = s) ∧
      (∀ started, ended.1 = .ok started → ∃ session backend selection world,
        started = .running session ∧ plan.MakesHost (.ok backend) ∧
          plan.Selects s.world selection world ∧ ended.2 = { s with world } ∧
          plan.Serves backend selection session) ∧
      ∀ place factory, plan.FirstHosts place factory →
        plan.start = Started.withServices plan.services <$> (plan.alone factory).start := by
  intro ended
  have failing {fault : Fault} (fails : plan.Fails fault) : ended = (.error fault, s) :=
    leads_start (fails.leads_stages flags config s.world) nofun s.depth
  have running {backend : Backend} {selection : Selection W} {world : W}
      (made : plan.MakesHost (.ok backend)) (selects : plan.Selects s.world selection world) :
      ended = (.ok (.running (plan.session (plan.withExecutor backend)
        (registryOf (plan.withExecutor backend)) selection)), { s with world }) :=
    leads_start (leads_stages flags config made selects) nofun s.depth
  refine ⟨fun fault => ⟨?reported, fun fails => by rw [failing fails]⟩, ?untold, ?started,
    fun place factory => start_eq_alone⟩
  all_goals
    rcases plan.fails_or_selects s.world with
      ⟨first, fails⟩ | ⟨backend, selection, world, made, selects⟩
  case reported.inl =>
    rw [failing fails]
    rintro ⟨⟩
    exact fails
  case untold.inl =>
    rw [failing fails]
    exact fun _ _ => rfl
  case started.inl =>
    intro started same
    rw [failing fails] at same
    cases same
  case reported.inr =>
    intro same
    rw [running made selects] at same
    cases same
  case untold.inr =>
    intro other same
    rw [running made selects] at same
    cases same
  case started.inr =>
    rw [running made selects]
    rintro started ⟨⟩
    exact ⟨_, backend, selection, world, rfl, made, selects, rfl,
      plan.serves_session backend selection⟩

/-- The host's name is found in any case, here that of the second factory, and the compiler's only
as it stands. Of two factories with the name the first is told, once. -/
theorem start_ends_with_first_of_name :
    let factory (name note : String) : CompilerFactory (List String) :=
      { name, onSelection := (note :: ·), create := fun _ => pure Compiler.stub }
    let plan : Plan (List String) := {
      vm := { hostArchitecture := "AARCH64" }
      options := Options.set {} .compiler "graal"
      services := { Services.builtin .bytewise with
        compilers :=
          [factory "Graal" "other", factory "graal" "first", factory "graal" "second"] } }
    ∃ session,
      (plan.start.runFrom { world := [] }).answer =
        (.ok (.running session), { world := ["first"] }) ∧
      session.selection = ⟨some 1, factory "graal" "first"⟩ ∧
      session.host.arch = .aarch64 ∧
      session.backends.toList = [(.aarch64, session.host)] := by
  intro factory plan
  obtain ⟨-, -, starts, -⟩ := plan.start_ends_at_first_failure { world := [] } rfl rfl
  have passed : (plan.start.runFrom { world := [] }).answer.1.isOk = true := by decide +kernel
  rcases ended : (plan.start.runFrom { world := [] }).answer with ⟨fault | started, s⟩
  · rw [ended] at passed
    cases passed
  rw [ended] at starts
  obtain ⟨session, backend, selection, world, rfl, made, selects, rfl, serves⟩ := starts started rfl
  have arch : session.host.arch = .aarch64 := by
    obtain ⟨place, host, first, made⟩ := made
    have second : plan.FirstHosts 1 .aarch64 := by
      refine ⟨rfl, by decide, fun other mem => ?_⟩
      obtain rfl : other = .amd64 .bytewise := List.mem_singleton.mp mem
      decide
    have found := find?_zipIdx_eq_some_iff.mpr first
    rw [find?_zipIdx_eq_some_iff.mpr second] at found
    cases found
    rw [serves.host]
    exact BackendFactory.isFor_aarch64.arch_of_backend made
  cases selects with
  | stub unset => cases unset
  | requested requested first =>
    cases requested
    have found := find?_zipIdx_eq_some_iff.mpr first
    have second : plan.services.compilers.zipIdx.find? (fun entry => entry.1.name == "graal") =
        some (factory "graal" "first", 1) := rfl
    rw [second] at found
    cases found
    exact ⟨session, rfl, serves.chosen, arch, arch ▸ serves.registered⟩

end Plan
end JitBridge
