import JitBridge.Proofs.Session.Conservation

/-!
What a session asks of the host program. `Session.recorded` is a session over the same host program,
which keeps besides its own state a list of its contacts with the session: the compilers it was
asked to make, the compilations, and the events its listeners were told, each with how it ended.

Keeping the list changes nothing else (`Session.afterCalls_recorded`), so `Session.contacts` is what
a run of the session itself asks of the host program.
-/

namespace JitBridge

variable {W α : Type}

/-! ### Contacts -/

/-- An event that listeners are told. -/
inductive Notice where
  | installed (cache : CodeCache) (code : InstalledCode) (artifact : Artifact)
  | bootstrapFinished
  | shutdown

/-- Tells a listener an event. -/
def Listener.hear (listener : Listener W) : Notice → Action W Unit
  | .installed cache code artifact => listener.installed cache code artifact
  | .bootstrapFinished => listener.bootstrapFinished
  | .shutdown => listener.shutdown

/-- One thing asked of the host program, and how it ended. -/
inductive Contact (W : Type) where
  /-- The chosen factory was asked for a compiler. -/
  | created (made : Except Fault (Compiler W))
  | compiled (compiler : Compiler W) (request : Request) (outcome : Except Fault CompileAnswer)
  /-- The listener at that place in the order of registration was told an event. -/
  | told (place : Nat) (notice : Notice) (outcome : Except Fault Unit)

/-- The state of a host program that keeps its contacts, oldest first. -/
structure Recorded (W : Type) where
  world : W
  contacts : List (Contact W) := []

/-! ### A host program that keeps its contacts -/

/-- The same action; how it ended is kept. -/
def Action.recorded (note : Except Fault α → Contact W) (x : Action W α) : Action (Recorded W) α :=
  Action.of fun s => do
    let (outcome, world) ← x.runFrom s.world
    pure (outcome, ⟨world, s.contacts ++ [note outcome]⟩)

def Compiler.recorded (compiler : Compiler W) : Compiler (Recorded W) where
  serial := compiler.serial
  compile request := (compiler.compile request).recorded (.compiled compiler request)

def CompilerFactory.recorded (factory : CompilerFactory W) : CompilerFactory (Recorded W) where
  name := factory.name
  onSelection s := { s with world := factory.onSelection s.world }
  create view := Compiler.recorded <$> (factory.create view).recorded .created
  hooks := factory.hooks

/-- The listener at a place in the order of registration. -/
def Listener.recorded (listener : Listener W) (place : Nat) : Listener (Recorded W) where
  installed cache code artifact :=
    (listener.installed cache code artifact).recorded (.told place (.installed cache code artifact))
  bootstrapFinished := listener.bootstrapFinished.recorded (.told place .bootstrapFinished)
  shutdown := listener.shutdown.recorded (.told place .shutdown)

/-- Listeners of which the first is at that place. -/
def Listener.recordedFrom (place : Nat) (listeners : List (Listener W)) :
    List (Listener (Recorded W)) :=
  (listeners.zipIdx place).map fun entry => entry.1.recorded entry.2

namespace Session

/-- The session over a host program that keeps its contacts. -/
def recorded (session : Session W) : Session (Recorded W) where
  vm := session.vm
  options := session.options
  backends := session.backends
  host := session.host
  services := {
    backends := session.services.backends
    compilers := session.services.compilers.map CompilerFactory.recorded
    listeners := Listener.recordedFrom 0 session.services.listeners }
  selection := ⟨session.selection.place, session.selection.factory.recorded⟩
  adjustment := session.adjustment
  trivialPrefixes := session.trivialPrefixes
  types := session.types

/-- The same state of a session, with the contacts so far. -/
def State.recorded (s : State W) (contacts : List (Contact W)) : State (Recorded W) where
  world := ⟨s.world, contacts⟩
  cache := s.cache
  codes := s.codes
  compiler := s.compiler.map Compiler.recorded
  lock := s.lock
  listeners := s.listeners.map (Listener.recordedFrom 0)
  statistics := s.statistics

/-- The contacts of a run of a session with its host program, oldest first. -/
def contacts (session : Session W) (world : W) (calls : List SessionCall) : List (Contact W) :=
  (session.recorded.afterCalls (session.recorded.initial { world }) calls).world.contacts

end Session

/-! ### Telling an event -/

/-- What listeners in a row are told, the first of them at `place`: all of them, or those up to the
first that fails. -/
inductive Told (notice : Notice) (place count : Nat) : List (Contact W) → Except Fault Unit → Prop
  | all : Told notice place count
      ((List.range' place count).map fun place => .told place notice (.ok ())) (.ok ())
  | upTo {k : Nat} {fault : Fault} (inside : k < count) : Told notice place count
      (((List.range' place k).map fun place => .told place notice (.ok ())) ++
        [.told (place + k) notice (.error fault)]) (.error fault)

namespace Told

variable {notice : Notice} {place count : Nat} {told : List (Contact W)}
  {outcome : Except Fault Unit}

/-- One more listener in front. -/
theorem cons (rest : Told notice (place + 1) count told outcome) :
    Told notice place (count + 1) (.told place notice (.ok ()) :: told) outcome := by
  cases rest with
  | all => exact .all
  | @upTo k fault inside =>
    have upTo : Told (W := W) notice place (count + 1) _ (.error fault) :=
      .upTo (k := k + 1) (Nat.succ_lt_succ inside)
    rwa [List.range'_succ, List.map_cons, List.cons_append,
      show place + (k + 1) = place + 1 + k by omega] at upTo

end Told

theorem Action.answer_recorded (note : Except Fault α → Contact W) (x : Action W α)
    (s : Recorded W) :
    ((x.recorded note).runFrom s).answer =
      ((x.runFrom s.world).answer.1,
        ⟨(x.runFrom s.world).answer.2, s.contacts ++ [note (x.runFrom s.world).answer.1]⟩) := rfl

theorem Listener.hear_recorded (listener : Listener W) (place : Nat) (notice : Notice) :
    (listener.recorded place).hear notice =
      (listener.hear notice).recorded (.told place notice) := by
  cases notice <;> rfl

theorem Listener.recordedFrom_cons (place : Nat) (listener : Listener W)
    (rest : List (Listener W)) :
    recordedFrom place (listener :: rest) =
      listener.recorded place :: recordedFrom (place + 1) rest := rfl

/-- Listeners that keep their contacts end as the listeners themselves, and have kept what was
told. -/
theorem Listener.answer_broadcast_recorded (notice : Notice) (listeners : List (Listener W))
    (place : Nat) (world : W) :
    let ended := ((broadcast (·.hear notice) listeners).runFrom world).answer
    ∃ told, Told notice place listeners.length told ended.1 ∧
      ∀ earlier, ((broadcast (·.hear notice) (recordedFrom place listeners)).runFrom
        ⟨world, earlier⟩).answer = (ended.1, ⟨ended.2, earlier ++ told⟩) := by
  induction listeners generalizing place world with
  | nil => exact ⟨[], .all, fun earlier => by simp [recordedFrom, broadcast]⟩
  | cons listener rest ih =>
    have first (earlier : List (Contact W)) :=
      Action.answer_recorded (.told place notice) (listener.hear notice) ⟨world, earlier⟩
    simp only [← hear_recorded] at first
    simp only [recordedFrom_cons, broadcast]
    rcases heard : ((listener.hear notice).runFrom world).answer with ⟨fault | _, world'⟩
    · simp only [heard] at first
      rw [Action.answer_bind_of_error heard]
      exact ⟨_, .upTo (Nat.succ_pos _), fun earlier => Action.answer_bind_of_error (first earlier)⟩
    · simp only [heard] at first
      rw [Action.answer_bind_of_ok heard]
      obtain ⟨told, tells, kept⟩ := ih (place + 1) world'
      refine ⟨_, tells.cons, fun earlier => ?_⟩
      rw [Action.answer_bind_of_ok (first earlier), kept, List.append_assoc, List.singleton_append]

namespace Session

variable (session : Session W) (s : State W)

/-- The event that a call tells the listeners. -/
def State.notice? (s : State W) : SessionCall → Option Notice
  | .install artifact => some (.installed (s.cache.afterInstall artifact s.codes.length)
      (s.cache.nextCode artifact) artifact)
  | .announce code artifact => some (.installed s.cache code artifact)
  | .bootstrapFinished => some .bootstrapFinished
  | .shutdown => some .shutdown
  | _ => none

/-- The state in which a call tells its event: code is installed and counted before. -/
def State.readied (s : State W) : SessionCall → State W
  | .install artifact => { s with
      cache := s.cache.afterInstall artifact s.codes.length
      codes := s.codes ++ [⟨s.cache.nextCode artifact, s.cache.executor⟩]
      statistics := s.statistics.countInstall artifact.code.length }
  | _ => s

/-- What a call that tells an event answers if no listener fails. -/
def State.answerTo (s : State W) : SessionCall → SessionAnswer
  | .install _ => .installed s.codes.length
  | _ => .done

/-- The listeners that an event is told. -/
def audience : List (Listener W) := s.listeners.getD session.services.listeners

theorem answer_broadcast (event : Listener W → Action W Unit) :
    let ended := ((Listener.broadcast event (session.audience s)).runFrom s.world).answer
    ((session.broadcast event).runFrom s).answer =
      (ended.1, { s with listeners := some (session.audience s), world := ended.2 }) := by
  rw [broadcast, Action.answer_bind_of_ok (session.answer_listeners s), answer_inWorld]
  rfl

theorem perform_bind_pure (x : Action (State W) Unit) (a : α) (answer : α → SessionAnswer) :
    perform (x >>= fun _ => pure a) answer s = perform x (fun _ => answer a) s := by
  rw [perform, perform]
  rcases ended : (x.runFrom s).answer with ⟨fault | a, s'⟩
  · rw [Action.answer_bind_of_error ended]
    rfl
  · rw [Action.answer_bind_of_ok ended]
    rfl

theorem answer_notifyInstall (code : InstalledCode) (artifact : Artifact) :
    ((session.notifyInstall code artifact).runFrom s).answer =
      ((session.broadcast (·.hear (.installed s.cache code artifact))).runFrom s).answer := by
  rw [notifyInstall, Action.answer_bind_of_ok (Action.answer_get s)]
  rfl

theorem answer_shutdown :
    (session.shutdown.runFrom s).answer =
      ((session.broadcast (·.hear .shutdown)).runFrom s).answer := by
  rw [shutdown, Action.answer_bind_of_ok (Action.answer_get s),
    Action.answer_bind_of_ok (Action.answer_log ..)]
  rfl

/-- The state is ready before the event is told. -/
theorem call_eq_perform {call : SessionCall} {notice : Notice}
    (tells : s.notice? call = some notice) :
    session.call s call =
      perform (session.broadcast (·.hear notice)) (fun _ => s.answerTo call) (s.readied call) := by
  cases call with
  | install artifact =>
    cases tells
    rw [Session.call, perform, install, Action.answer_bind_of_ok (Action.answer_get s),
      Action.answer_bind_of_ok (answer_onCache s _), CodeCache.answer_install,
      Action.answer_bind_of_ok (answer_count _ _)]
    refine (perform_bind_pure (s.readied (.install artifact))
      (session.notifyInstall (s.cache.nextCode artifact) artifact) s.codes.length
      .installed).trans ?_
    rw [perform, answer_notifyInstall]
    rfl
  | announce code artifact =>
    cases tells
    rw [Session.call, perform, answer_notifyInstall]
    rfl
  | bootstrapFinished =>
    cases tells
    rfl
  | shutdown =>
    cases tells
    rw [Session.call, perform, answer_shutdown]
    rfl
  | _ => cases tells

/-- A call that tells an event ends as the telling does. -/
theorem call_of_notice {call : SessionCall} {notice : Notice}
    (tells : s.notice? call = some notice) :
    let ended := ((Listener.broadcast (·.hear notice) (session.audience s)).runFrom s.world).answer
    session.call s call =
      (ended.1.map fun _ => s.answerTo call,
        { s.readied call with listeners := some (session.audience s), world := ended.2 }) := by
  rw [call_eq_perform session s tells, perform, answer_broadcast]
  cases call <;> rfl

/-! ### What a call asks -/

/-- What a call asks of the host program. The call ends as it does without the contacts being kept,
and leaves the same state. -/
def Asks (call : SessionCall) (now : List (Contact W)) : Prop :=
  ∀ earlier, session.recorded.call (s.recorded earlier) call =
    ((session.call s call).1, (session.call s call).2.recorded (earlier ++ now))

theorem audience_recorded (earlier : List (Contact W)) :
    session.recorded.audience (s.recorded earlier) =
      Listener.recordedFrom 0 (session.audience s) := by
  rw [audience, audience, State.recorded]
  cases s.listeners <;> rfl

/-- A call that tells an event asks nothing else. -/
theorem exists_told {call : SessionCall} {notice : Notice} (tells : s.notice? call = some notice) :
    ∃ told outcome, session.Asks s call told ∧
      Told notice 0 (session.audience s).length told outcome ∧
      (session.call s call).1 = outcome.map fun _ => s.answerTo call := by
  obtain ⟨told, heard, kept⟩ :=
    Listener.answer_broadcast_recorded notice (session.audience s) 0 s.world
  refine ⟨told, _, fun earlier => ?_, heard, congrArg Prod.fst (session.call_of_notice s tells)⟩
  have tells' : (s.recorded earlier).notice? call = some notice := by
    rw [← tells]
    cases call <;> rfl
  rw [session.call_of_notice s tells, session.recorded.call_of_notice _ tells', audience_recorded,
    show (s.recorded earlier).world = ⟨s.world, earlier⟩ from rfl, kept]
  cases call <;> rfl

/-- The factory is asked for a compiler if there is none. -/
def creation (compiler : Option (Compiler W)) (world : W) : List (Contact W) :=
  match compiler with
  | some _ => []
  | none => [.created (session.acquire none world).1]

theorem acquire_recorded (compiler : Option (Compiler W)) (world : W)
    (earlier : List (Contact W)) :
    session.recorded.acquire (compiler.map Compiler.recorded) ⟨world, earlier⟩ =
      ((session.acquire compiler world).1.map Compiler.recorded,
        ⟨(session.acquire compiler world).2, earlier ++ session.creation compiler world⟩) := by
  cases compiler with
  | some compiler =>
    rw [creation, List.append_nil]
    rfl
  | none =>
    show ((Compiler.recorded <$> (session.selection.factory.create session.view).recorded
      .created).runFrom ⟨world, earlier⟩).answer = _
    rw [Action.runFrom_map]
    rfl

/-- The compilation that a request asks of the compiler there is. -/
def compilation (request : Request) : Except Fault (Compiler W) × W → List (Contact W)
  | (.ok compiler, world) =>
    [.compiled compiler request ((compiler.compile request).runFrom world).answer.1]
  | (.error _, _) => []

theorem reply_recorded (request : Request) (compiler : Option (Compiler W)) (world : W)
    (earlier : List (Contact W)) :
    session.recorded.reply request (compiler.map Compiler.recorded) ⟨world, earlier⟩ =
      ((session.reply request compiler world).1,
        (session.reply request compiler world).2.1.map Compiler.recorded,
        ⟨(session.reply request compiler world).2.2,
          earlier ++ (session.creation compiler world ++
            compilation request (session.acquire compiler world))⟩) := by
  rw [reply, reply, acquire_recorded]
  rcases session.acquire compiler world with ⟨fault | compiler, world'⟩
  · rw [compilation, List.append_nil]
    rfl
  · rw [← List.append_assoc]
    rfl

theorem asks_prepare : session.Asks s .prepare (session.creation s.compiler s.world) := by
  intro earlier
  rw [Session.call, perform, Session.call, perform, answer_compiler, answer_compiler,
    show session.recorded.acquire (s.recorded earlier).compiler (s.recorded earlier).world = _ from
      session.acquire_recorded s.compiler s.world earlier]
  simp only [Lock.release_map]
  rcases session.acquire s.compiler s.world with ⟨fault | compiler, world⟩
  · rfl
  · rfl

theorem asks_compile (request : Request) :
    session.Asks s (.compile request) (session.creation s.compiler s.world ++
      compilation request (session.acquire s.compiler s.world)) := by
  intro earlier
  have same : session.recorded.reply request (s.recorded earlier).compiler
      (s.recorded earlier).world = _ :=
    session.reply_recorded request s.compiler s.world earlier
  have outcome := congrArg Prod.fst same
  have left : session.recorded.replied request (s.recorded earlier) =
      (session.replied request s).recorded (earlier ++ (session.creation s.compiler s.world ++
        compilation request (session.acquire s.compiler s.world))) := by
    have acquired := session.acquire_recorded s.compiler s.world earlier
    rw [replied, same, show session.recorded.acquire (s.recorded earlier).compiler
      (s.recorded earlier).world = _ from acquired, Lock.release_map]
    rfl
  rw [Session.call, perform, Session.call, perform]
  rcases Normalizes.exists_or_raises (session.reply request s.compiler s.world).1 with
    ⟨result, normalizes⟩ | ⟨p, raises⟩
  · rw [session.answer_compile_of_normalizes normalizes,
      session.recorded.answer_compile_of_normalizes (outcome ▸ normalizes), left, outcome]
    rfl
  · rw [session.answer_compile_of_raises raises,
      session.recorded.answer_compile_of_raises (outcome.trans raises), left]
    rfl

theorem call_invalidate (handle : Handle) :
    let ended := (s.cache.invalidate s.codes handle).answer
    session.call s (.invalidate handle) =
      (.ok (.invalidated ended.1), { s with
        cache := ended.2.1
        codes := ended.2.2
        statistics := if ended.1 then s.statistics.countInvalidation else s.statistics }) := by
  rw [Session.call, perform, invalidate, Action.answer_bind_of_ok (answer_onCache s _)]
  rcases (s.cache.invalidate s.codes handle).answer with ⟨was, cache, codes⟩
  cases was with
  | false => rfl
  | true => rfl

theorem asks_invalidate (handle : Handle) : session.Asks s (.invalidate handle) [] := by
  intro earlier
  rw [List.append_nil, call_invalidate, call_invalidate]
  rfl

theorem asks_attach (executor : Executor) : session.Asks s (.attach executor) [] := by
  intro earlier
  rw [List.append_nil]
  rfl

/-- A request changes the compiler, the host program and the counters, and the engine is told the
result that stands for the way in which asking for the compilation ended. -/
theorem call_compile (request : Request) :
    (∃ statistics, (session.call s (.compile request)).2 =
        { session.replied request s with statistics }) ∧
      ∀ result, (session.call s (.compile request)).1 = .ok (.compiled result) ↔
        Normalizes (session.reply request s.compiler s.world).1 result := by
  rw [Session.call, perform]
  rcases Normalizes.exists_or_raises (session.reply request s.compiler s.world).1 with
    ⟨result, normalizes⟩ | ⟨p, raises⟩
  · rw [session.answer_compile_of_normalizes normalizes]
    refine ⟨⟨_, rfl⟩, fun other => ⟨?_, fun found => ?_⟩⟩
    · rintro ⟨⟩
      exact normalizes
    · rw [normalizes.unique found]
      rfl
  · rw [session.answer_compile_of_raises raises]
    refine ⟨⟨_, rfl⟩, fun other => ⟨fun told => ?_, fun found => ?_⟩⟩
    · cases told
    · exact absurd raises (found.ne_raises p)

/-- Whatever a call asks, it ends as it does without the contacts being kept. -/
theorem exists_asks (call : SessionCall) : ∃ now, session.Asks s call now := by
  cases tells : s.notice? call with
  | some notice =>
    obtain ⟨told, -, asks, -⟩ := session.exists_told s tells
    exact ⟨told, asks⟩
  | none =>
    cases call with
    | invalidate handle => exact ⟨_, session.asks_invalidate s handle⟩
    | attach executor => exact ⟨_, session.asks_attach s executor⟩
    | compile request => exact ⟨_, session.asks_compile s request⟩
    | prepare => exact ⟨_, session.asks_prepare s⟩
    | _ => cases tells

/-! ### What a run asks -/

/-- A run leaves the same state when the contacts are kept. -/
theorem afterCalls_recorded (world : W) (calls : List SessionCall) :
    session.recorded.afterCalls (session.recorded.initial { world }) calls =
      (session.afterCalls (session.initial world) calls).recorded
        (session.contacts world calls) := by
  suffices kept : ∃ kept, session.recorded.afterCalls (session.recorded.initial { world }) calls =
      (session.afterCalls (session.initial world) calls).recorded kept by
    obtain ⟨kept, same⟩ := kept
    rw [contacts, same]
    rfl
  induction calls using List.reverseRecOn with
  | nil => exact ⟨[], rfl⟩
  | append_singleton calls call ih =>
    obtain ⟨kept, same⟩ := ih
    obtain ⟨now, asks⟩ :=
      session.exists_asks (session.afterCalls (session.initial world) calls) call
    refine ⟨kept ++ now, ?_⟩
    rw [afterCalls_append, same, afterCalls_append]
    exact congrArg Prod.snd (asks kept)

variable {session}

/-- One more call adds what it asks. -/
theorem contacts_append {world : W} {calls : List SessionCall} {call : SessionCall}
    {now : List (Contact W)}
    (asks : session.Asks (session.afterCalls (session.initial world) calls) call now) :
    session.contacts world (calls ++ [call]) = session.contacts world calls ++ now := by
  rw [contacts, afterCalls_append, afterCalls_recorded]
  exact congrArg (·.2.world.contacts) (asks _)

end Session
end JitBridge
