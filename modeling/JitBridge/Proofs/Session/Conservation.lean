import JitBridge.Proofs.Backend.Builtin
import JitBridge.Proofs.Code.Ownership
import JitBridge.Proofs.Session.Dispatch
import JitBridge.Proofs.Session.Startup
import JitBridge.Session.Code
import Mathlib.Algebra.Ring.Nat
import Mathlib.Data.List.Induction

/-!
Conservation of the code of a session. The counters of a session and its code cache are separate
state. An installation changes both before the listeners are told, and any listener may then fail;
an invalidation is counted only where the code was valid.

`CodeLedger` is the part of the state that deals with code. `Session.ledger_call` says that a call
changes it in the same way whatever the host program does, and `CodeLedger.Balanced` what every run
keeps of it. `Session.counters_conserve_code` puts the two together.
-/

namespace JitBridge

/-! ### Calls -/

/-- A call that may change a session. -/
inductive SessionCall where
  | install (artifact : Artifact)
  | invalidate (handle : Handle)
  | attach (executor : Executor)
  | compile (request : Request)
  /-- Makes the compiler ahead of the first request. -/
  | prepare
  /-- Tells the listeners that code was installed. -/
  | announce (code : InstalledCode) (artifact : Artifact)
  | bootstrapFinished
  | shutdown

namespace SessionCall

def isInstall : SessionCall → Bool
  | install _ => true
  | _ => false

/-- The length of the code that a call installs. -/
def bytes : SessionCall → Nat
  | install artifact => artifact.code.length
  | _ => 0

/-- The number of installations in a run. -/
def installs (calls : List SessionCall) : Nat := calls.countP isInstall

/-- The length of all code installed in a run. -/
def installedBytes (calls : List SessionCall) : Nat := (calls.map bytes).sum

/-- Only handles that were given out before are invalidated in the run. The handles of a session
count its installations. -/
def InvalidatesInstalled (calls : List SessionCall) : Prop :=
  ∀ (before : List SessionCall) (h : Handle) (later : List SessionCall),
    calls = before ++ .invalidate h :: later → h < installs before

/-- Neither the numbers of the code nor the bytes wrap in the run. -/
structure Fit (calls : List SessionCall) : Prop where
  ids : installs calls + 1 < UInt64.size
  bytes : installedBytes calls < UInt64.size

variable {calls more : List SessionCall} {call : SessionCall}

theorem installs_append (calls more : List SessionCall) :
    installs (calls ++ more) = installs calls + installs more :=
  List.countP_append

theorem installedBytes_append (calls more : List SessionCall) :
    installedBytes (calls ++ more) = installedBytes calls + installedBytes more := by
  simp [installedBytes]

theorem InvalidatesInstalled.of_append (owned : InvalidatesInstalled (calls ++ more)) :
    InvalidatesInstalled calls := by
  intro before h later split
  refine owned before h (later ++ more) ?_
  rw [split, List.append_assoc, List.cons_append]

theorem InvalidatesInstalled.lt_installs (owned : InvalidatesInstalled calls) {h : Handle}
    (mem : .invalidate h ∈ calls) : h < installs calls := by
  obtain ⟨before, later, rfl⟩ := List.append_of_mem mem
  rw [installs_append]
  exact Nat.lt_add_right _ (owned before h later rfl)

/-- Whether a call is no invalidation of a handle that is still to be given out. -/
def isGiven (given : Nat) : SessionCall → Bool
  | invalidate h => h < given
  | _ => true

/-- Checks the calls of a run in turn, where that many handles were given out before. -/
def areGiven (given : Nat) : List SessionCall → Bool
  | [] => true
  | call :: calls => call.isGiven given && areGiven (given + installs [call]) calls

theorem areGiven_iff {given : Nat} {calls : List SessionCall} :
    areGiven given calls = true ↔
      ∀ (before : List SessionCall) (h : Handle) (later : List SessionCall),
        calls = before ++ .invalidate h :: later → h < given + installs before := by
  induction calls generalizing given with
  | nil => simp [areGiven]
  | cons call calls ih =>
    rw [areGiven, Bool.and_eq_true, ih]
    constructor
    · rintro ⟨first, rest⟩ before h later split
      cases before with
      | nil =>
        cases split
        exact of_decide_eq_true first
      | cons _ before =>
        cases split
        rw [← List.singleton_append, installs_append, ← Nat.add_assoc]
        exact rest before h later rfl
    · intro all
      refine ⟨?_, fun before h later split => ?_⟩
      · cases call with
        | invalidate h => exact decide_eq_true (all [] h calls rfl)
        | _ => rfl
      · rw [Nat.add_assoc, ← installs_append, List.singleton_append]
        exact all (call :: before) h later (congrArg _ split)

instance (calls : List SessionCall) : Decidable (InvalidatesInstalled calls) :=
  decidable_of_iff (areGiven 0 calls = true) (by simp only [areGiven_iff, Nat.zero_add]; rfl)

theorem Fit.of_append (fits : Fit (calls ++ more)) : Fit calls where
  ids := by
    have ids := fits.ids
    rw [installs_append] at ids
    omega
  bytes := by
    have bytes := fits.bytes
    rw [installedBytes_append] at bytes
    omega

end SessionCall

/-- The answer to a call on a session. -/
inductive SessionAnswer where
  | installed (handle : Handle)
  | invalidated (was : Bool)
  | attached (first : Bool)
  | compiled (result : CompileResult)
  | done
deriving DecidableEq

/-- Whether a call answered that it invalidated valid code. -/
def endedValidity : Except Fault SessionAnswer → Bool
  | .ok (.invalidated was) => was
  | _ => false

/-! ### Runs -/

namespace Session

variable {W α : Type} (session : Session W)

/-- Runs an action of a session and gives its answer the form of all answers. -/
def perform (x : Action (State W) α) (answer : α → SessionAnswer) (s : State W) :
    Except Fault SessionAnswer × State W :=
  let (ended, s) := (x.runFrom s).answer
  (ended.map answer, s)

/-- One call: how it ended, and the state after it. -/
def call (s : State W) : SessionCall → Except Fault SessionAnswer × State W
  | .install artifact => perform (session.install artifact) .installed s
  | .invalidate handle => perform (invalidate handle) .invalidated s
  | .attach executor => perform (attach executor) .attached s
  | .compile request => perform (session.compile request) .compiled s
  | .prepare => perform session.compiler (fun _ => .done) s
  | .announce code artifact => perform (session.notifyInstall code artifact) (fun _ => .done) s
  | .bootstrapFinished => perform session.bootstrapFinished (fun _ => .done) s
  | .shutdown => perform session.shutdown (fun _ => .done) s

/-- The state after the calls of a run. -/
def afterCalls (s : State W) : List SessionCall → State W
  | [] => s
  | call :: calls => afterCalls (session.call s call).2 calls

/-- How the calls of a run ended, in order. -/
def endings (s : State W) : List SessionCall → List (Except Fault SessionAnswer)
  | [] => []
  | call :: calls => (session.call s call).1 :: endings (session.call s call).2 calls

variable (s : State W)

theorem afterCalls_append (calls more : List SessionCall) :
    session.afterCalls s (calls ++ more) =
      session.afterCalls (session.afterCalls s calls) more := by
  induction calls generalizing s with
  | nil => rfl
  | cons call calls ih => exact ih (session.call s call).2

theorem endings_append (calls more : List SessionCall) :
    session.endings s (calls ++ more) =
      session.endings s calls ++ session.endings (session.afterCalls s calls) more := by
  induction calls generalizing s with
  | nil => rfl
  | cons call calls ih => exact congrArg _ (ih (session.call s call).2)

theorem length_endings (calls : List SessionCall) :
    (session.endings s calls).length = calls.length := by
  induction calls generalizing s with
  | nil => rfl
  | cons call calls ih => exact congrArg Nat.succ (ih (session.call s call).2)

/-- A call of a run ends as it does in the state that the calls before it leave. -/
theorem getElem?_endings (before : List SessionCall) (call : SessionCall)
    (later : List SessionCall) :
    (session.endings s (before ++ call :: later))[before.length]? =
      some (session.call (session.afterCalls s before) call).1 := by
  rw [endings_append, List.getElem?_append_right
    (Nat.le_of_eq (session.length_endings s before)), length_endings, Nat.sub_self]
  rfl

/-! ### What a call does -/

/-- The listeners are kept once they are looked for. -/
theorem answer_listeners :
    (session.listeners.runFrom s).answer =
      (.ok (s.listeners.getD session.services.listeners),
        { s with listeners := some (s.listeners.getD session.services.listeners) }) := by
  obtain ⟨world, cache, codes, compiler, lock, listeners, statistics⟩ := s
  cases listeners with
  | none => rfl
  | some listeners => rfl

/-- An action that touches nothing but the listeners and the host program. -/
def Tells (x : Action (State W) Unit) (s : State W) : Prop :=
  ∃ told world, (x.runFrom s).answer =
    (told, { s with listeners := some (s.listeners.getD session.services.listeners), world })

theorem tells_broadcast (event : Listener W → Action W Unit) :
    session.Tells (session.broadcast event) s := by
  rw [Tells, broadcast, Action.answer_bind_of_ok (session.answer_listeners s), answer_inWorld]
  exact ⟨_, _, rfl⟩

theorem tells_notifyInstall (code : InstalledCode) (artifact : Artifact) :
    session.Tells (session.notifyInstall code artifact) s := by
  rw [Tells, notifyInstall, Action.answer_bind_of_ok (Action.answer_get s)]
  exact session.tells_broadcast s _

theorem tells_shutdown : session.Tells session.shutdown s := by
  rw [Tells, shutdown, Action.answer_bind_of_ok (Action.answer_get s),
    Action.answer_bind_of_ok (Action.answer_log ..)]
  exact session.tells_broadcast s _

end Session

/-! ### Code and its counters -/

/-- Nothing was installed in the cache yet. An executor may be attached. -/
structure CodeCache.IsNew (cache : CodeCache) : Prop where
  live : cache.live = ∅
  nextId : cache.nextId = 1

/-- A backend of a supported architecture has a new code cache. -/
theorem BackendFactory.IsFor.isNew {factory : BackendFactory} {arch : Arch} {vm : VmConfig}
    {backend : Backend} (made : factory.IsFor arch)
    (created : (factory.create vm).run.answer = .ok backend) : backend.cache.IsNew := by
  obtain ⟨decoder, report, creates⟩ := made
  rw [creates, answer_createFor] at created
  split at created
  · cases configured : RegisterConfig.ofTarget (.ofArchitecture arch.architecture 16 true) vm with
    | error fault =>
      rw [configured] at created
      cases created
    | ok registers =>
      rw [configured] at created
      cases created
      exact ⟨rfl, rfl⟩
  · cases created

theorem CodeCache.IsNew.tracks {cache : CodeCache} (new : cache.IsNew) : cache.Tracks [] [] where
  distinct := List.nodup_nil
  numbered := by simp
  nextId := congrArg UInt64.toNat new.nextId
  found_iff := by simp [lookup, new.live]
  count := congrArg Table.size new.live

/-- What a session keeps of its code. -/
structure CodeLedger where
  cache : CodeCache
  codes : Codes
  installs : UInt64
  invalidations : UInt64
  installedBytes : UInt64

namespace CodeLedger

/-- What a call leaves of the code. -/
def call (ledger : CodeLedger) : SessionCall → CodeLedger
  | .install artifact =>
    let (_, cache, codes) := (ledger.cache.install ledger.codes artifact).answer
    { ledger with
      cache, codes
      installs := ledger.installs + 1
      installedBytes := ledger.installedBytes + UInt64.ofNat artifact.code.length }
  | .invalidate handle =>
    let invalidated := (ledger.cache.invalidate ledger.codes handle).answer
    { ledger with
      cache := invalidated.2.1
      codes := invalidated.2.2
      invalidations := if invalidated.1 then ledger.invalidations + 1 else ledger.invalidations }
  | .attach executor => { ledger with cache := (ledger.cache.attach executor).2 }
  | _ => ledger

/-- Whether a call ends the validity of code. -/
def ends (ledger : CodeLedger) : SessionCall → Bool
  | .invalidate handle => Codes.isValid ledger.codes handle
  | _ => false

end CodeLedger

namespace Session

variable {W : Type} (session : Session W) (s : State W)

/-- The part of the state that deals with code. -/
def State.ledger (s : State W) : CodeLedger where
  cache := s.cache
  codes := s.codes
  installs := s.statistics.installs
  invalidations := s.statistics.invalidations
  installedBytes := s.statistics.installedBytes

theorem answer_onCache {α : Type} (f : CodeCache → Codes → Emit (α × CodeCache × Codes)) :
    ((onCache f).runFrom s).answer =
      (.ok (f s.cache s.codes).answer.1, { s with
        cache := (f s.cache s.codes).answer.2.1
        codes := (f s.cache s.codes).answer.2.2 }) := rfl

/-- Code is installed and counted before the listeners are told, and stays so if one fails. -/
theorem answer_install (artifact : Artifact) :
    ∃ (told : Except Fault Unit) (s' : State W),
      ((session.install artifact).runFrom s).answer = (told.map fun _ => s.codes.length, s') ∧
        s'.ledger = s.ledger.call (.install artifact) := by
  let installed : State W := { s with
    cache := s.cache.afterInstall artifact s.codes.length
    codes := s.codes ++ [⟨s.cache.nextCode artifact, s.cache.executor⟩]
    statistics := s.statistics.countInstall artifact.code.length }
  obtain ⟨told, world, last⟩ :=
    session.tells_notifyInstall installed (s.cache.nextCode artifact) artifact
  refine ⟨told, { installed with
    listeners := some (s.listeners.getD session.services.listeners), world }, ?_, rfl⟩
  rw [install, Action.answer_bind_of_ok (Action.answer_get s),
    Action.answer_bind_of_ok (answer_onCache s _), CodeCache.answer_install,
    Action.answer_bind_of_ok (answer_count _ _)]
  cases told with
  | error fault => exact Action.answer_bind_of_error last
  | ok _ => exact Action.answer_bind_of_ok last

theorem answer_invalidate (handle : Handle) :
    ∃ s' : State W,
      ((invalidate handle).runFrom s).answer = (.ok (Codes.isValid s.codes handle), s') ∧
        s'.ledger = s.ledger.call (.invalidate handle) := by
  have valid : (s.cache.invalidate s.codes handle).answer.1 = Codes.isValid s.codes handle := by
    cases found : s.codes[handle]? with
    | none =>
      rw [CodeCache.invalidate, found, Codes.isValid, found]
      rfl
    | some installation =>
      rw [CodeCache.answer_invalidate s.cache found, Codes.isValid, found]
      rfl
  simp only [invalidate, Action.answer_bind_of_ok (answer_onCache s _), State.ledger,
    CodeLedger.call, valid]
  cases Codes.isValid s.codes handle with
  | false => exact ⟨_, rfl, rfl⟩
  | true => exact ⟨_, rfl, rfl⟩

theorem Tells.ledger_perform {session : Session W} {x : Action (State W) Unit} {s : State W}
    (tells : session.Tells x s) (answer : Unit → SessionAnswer) :
    (perform x answer s).2.ledger = s.ledger := by
  obtain ⟨told, world, ended⟩ := tells
  rw [perform, ended]
  rfl

/-- A call changes what a session keeps of its code in the same way whatever the host program
does. -/
theorem ledger_call (call : SessionCall) :
    (session.call s call).2.ledger = s.ledger.call call := by
  cases call with
  | install artifact =>
    obtain ⟨told, s', ended, ledger⟩ := session.answer_install s artifact
    rw [Session.call, perform, ended]
    exact ledger
  | invalidate handle =>
    obtain ⟨s', ended, ledger⟩ := answer_invalidate s handle
    rw [Session.call, perform, ended]
    exact ledger
  | attach executor => rfl
  | compile request =>
    rcases Normalizes.exists_or_raises (session.reply request s.compiler s.world).1 with
      ⟨result, normalizes⟩ | ⟨p, raises⟩
    · rw [Session.call, perform, session.answer_compile_of_normalizes normalizes]
      cases result with
      | success inlined => rfl
      | failure message retry => rfl
    · rw [Session.call, perform, session.answer_compile_of_raises raises]
      rfl
  | prepare =>
    rw [Session.call, perform, session.answer_compiler]
    rfl
  | announce code artifact => exact (session.tells_notifyInstall s code artifact).ledger_perform _
  | bootstrapFinished => exact (session.tells_broadcast s (·.bootstrapFinished)).ledger_perform _
  | shutdown => exact (session.tells_shutdown s).ledger_perform _

theorem endedValidity_perform {α : Type} (x : Action (State W) α) {answer : α → SessionAnswer}
    (other : ∀ a, endedValidity (.ok (answer a)) = false) :
    endedValidity (perform x answer s).1 = false := by
  rw [perform]
  rcases (x.runFrom s).answer with ⟨_ | a, s'⟩
  · rfl
  · exact other a

/-- Only an invalidation of valid code answers that it ended the validity of code. -/
theorem endedValidity_call (call : SessionCall) :
    endedValidity (session.call s call).1 = s.ledger.ends call := by
  cases call with
  | invalidate handle =>
    obtain ⟨s', ended, -⟩ := answer_invalidate s handle
    rw [Session.call, perform, ended]
    rfl
  | _ => exact endedValidity_perform s _ fun _ => rfl

end Session

/-! ### What a run keeps -/

namespace CodeLedger

/-- What holds after the calls of a run, of which that many ended the validity of code. -/
structure Balanced (ledger : CodeLedger) (calls : List SessionCall) (ended : Nat) : Prop where
  tracks : ledger.cache.Tracks ledger.codes (List.range (SessionCall.installs calls))
  length : ledger.codes.length = SessionCall.installs calls
  valid_iff : ∀ h < SessionCall.installs calls,
    Codes.isValid ledger.codes h = true ↔ .invalidate h ∉ calls
  /-- Code is live, or a call ended its validity. -/
  live : ledger.cache.installedCount + ended = SessionCall.installs calls
  installs : ledger.installs = UInt64.ofNat (SessionCall.installs calls)
  invalidations : ledger.invalidations = UInt64.ofNat ended
  installedBytes : ledger.installedBytes = UInt64.ofNat (SessionCall.installedBytes calls)

namespace Balanced

variable {ledger : CodeLedger} {calls : List SessionCall} {ended : Nat}
  (balanced : ledger.Balanced calls ended)

include balanced

/-- The next code gets the next number. -/
theorem toNat_nextId : ledger.cache.nextId.toNat = SessionCall.installs calls + 1 := by
  rw [balanced.tracks.nextId, List.length_range]

theorem installedCount_install (artifact : Artifact) :
    (ledger.call (.install artifact)).cache.installedCount =
      ledger.cache.installedCount + 1 :=
  balanced.tracks.installedCount_install artifact ledger.codes.length

theorem install (owned : ∀ h : Handle, .invalidate h ∈ calls → h < SessionCall.installs calls)
    (room : SessionCall.installs calls + 2 < UInt64.size) (artifact : Artifact) :
    (ledger.call (.install artifact)).Balanced (calls ++ [.install artifact]) ended := by
  have one : SessionCall.installs (calls ++ [.install artifact]) = SessionCall.installs calls + 1 :=
    SessionCall.installs_append calls _
  have bytes : SessionCall.installedBytes (calls ++ [.install artifact]) =
      SessionCall.installedBytes calls + artifact.code.length :=
    SessionCall.installedBytes_append calls _
  have range : List.range (SessionCall.installs calls + 1) =
      List.range (SessionCall.installs calls) ++ [ledger.codes.length] := by
    rw [List.range_succ, balanced.length]
  constructor
  case tracks =>
    rw [one, range]
    exact balanced.tracks.install artifact (by rwa [List.length_range])
  case length =>
    rw [one, ← balanced.length]
    exact List.length_append
  case valid_iff =>
    intro h within
    rw [one] at within
    rcases Nat.lt_succ_iff_lt_or_eq.mp within with old | rfl
    · rw [CodeLedger.call, CodeCache.answer_install,
        balanced.tracks.isValid_append (List.mem_range.mpr old), balanced.valid_iff h old]
      simp
    · have fresh : .invalidate (SessionCall.installs calls) ∉ calls ++ [.install artifact] := by
        intro mem
        rcases List.mem_append.mp mem with earlier | last
        · exact Nat.lt_irrefl _ (owned _ earlier)
        · cases List.mem_singleton.mp last
      refine iff_of_true ?_ fresh
      rw [CodeLedger.call, CodeCache.answer_install, Codes.isValid, ← balanced.length,
        List.getElem?_concat_length]
      rfl
  case live =>
    rw [one, balanced.installedCount_install, Nat.add_right_comm, balanced.live]
  case installs =>
    rw [one, UInt64.ofNat_add, ← balanced.installs]
    rfl
  case invalidations => exact balanced.invalidations
  case installedBytes =>
    rw [bytes, UInt64.ofNat_add, ← balanced.installedBytes]
    rfl

theorem invalidate {g : Handle} (given : g < SessionCall.installs calls) :
    (ledger.call (.invalidate g)).Balanced (calls ++ [.invalidate g])
      (ended + if ledger.ends (.invalidate g) then 1 else 0) := by
  have same : SessionCall.installs (calls ++ [.invalidate g]) = SessionCall.installs calls :=
    SessionCall.installs_append calls _
  have bytes : SessionCall.installedBytes (calls ++ [.invalidate g]) =
      SessionCall.installedBytes calls :=
    SessionCall.installedBytes_append calls _
  have mem : g ∈ List.range (SessionCall.installs calls) := List.mem_range.mpr given
  obtain ⟨installation, stored, -⟩ := balanced.tracks.exists_installation mem
  have valid : ledger.ends (.invalidate g) = installation.code.valid := by
    rw [ends, Codes.isValid, stored]
    rfl
  have answer := CodeCache.answer_invalidate ledger.cache stored
  rw [valid]
  constructor
  case tracks =>
    rw [same, CodeLedger.call, answer]
    exact balanced.tracks.invalidate mem stored
  case length =>
    rw [same, CodeLedger.call, answer, ← balanced.length]
    exact List.length_set
  case valid_iff =>
    intro h within
    rw [same] at within
    rw [CodeLedger.call, answer]
    by_cases last : h = g
    · subst last
      rw [CodeSpace.isValid_set_self stored]
      simp
    · rw [CodeSpace.isValid_set_of_ne (Ne.symm last), balanced.valid_iff h within]
      simp [last]
  case live =>
    have left := balanced.tracks.installedCount_erase mem stored
    have balance := balanced.live
    rw [same, CodeLedger.call, answer]
    dsimp only
    omega
  case installs => exact same ▸ balanced.installs
  case invalidations =>
    rw [CodeLedger.call, answer, UInt64.ofNat_add, ← balanced.invalidations]
    cases installation.code.valid with
    | false => simp
    | true => rfl
  case installedBytes => exact bytes ▸ balanced.installedBytes

/-- Calls of other kinds neither install nor invalidate. -/
theorem other {call : SessionCall} (installs : call.isInstall = false)
    (ends : ∀ h, call ≠ .invalidate h) : ledger.Balanced (calls ++ [call]) ended := by
  have same : SessionCall.installs (calls ++ [call]) = SessionCall.installs calls := by
    rw [SessionCall.installs, List.countP_append, List.countP_singleton, installs]
    rfl
  have bytes : SessionCall.installedBytes (calls ++ [call]) =
      SessionCall.installedBytes calls := by
    rw [SessionCall.installedBytes_append]
    cases call with
    | install artifact => cases installs
    | _ => rfl
  have told (h : Handle) : .invalidate h ∉ calls ++ [call] ↔ .invalidate h ∉ calls := by
    rw [List.mem_append, List.mem_singleton, or_iff_left (Ne.symm (ends h))]
  exact {
    tracks := same ▸ balanced.tracks
    length := same ▸ balanced.length
    valid_iff := fun h within => (balanced.valid_iff h (same ▸ within)).trans (told h).symm
    live := same ▸ balanced.live
    installs := same ▸ balanced.installs
    invalidations := balanced.invalidations
    installedBytes := bytes ▸ balanced.installedBytes }

theorem attach (executor : Executor) :
    (ledger.call (.attach executor)).Balanced calls ended where
  tracks := balanced.tracks.attach executor
  length := balanced.length
  valid_iff := balanced.valid_iff
  live := by
    have live : (ledger.cache.attach executor).2.installedCount = ledger.cache.installedCount := by
      rw [(balanced.tracks.attach executor).count, balanced.tracks.count]
    exact live ▸ balanced.live
  installs := balanced.installs
  invalidations := balanced.invalidations
  installedBytes := balanced.installedBytes

/-- One more call. -/
theorem step {call : SessionCall} (owned : SessionCall.InvalidatesInstalled (calls ++ [call]))
    (fits : SessionCall.Fit (calls ++ [call])) :
    (ledger.call call).Balanced (calls ++ [call])
      (ended + if ledger.ends call then 1 else 0) := by
  cases call with
  | install artifact =>
    refine balanced.install (fun h => owned.of_append.lt_installs) ?_ artifact
    have ids := fits.ids
    rw [SessionCall.installs_append] at ids
    exact ids
  | invalidate g => exact balanced.invalidate (owned calls g [] rfl)
  | attach executor => exact (balanced.other rfl (by nofun)).attach executor
  | _ => exact balanced.other rfl (by nofun)

/-- Code is found under its number until it is invalidated. -/
theorem lookup_iff {h : Handle} (given : h < SessionCall.installs calls) {id : UInt64}
    (number : id.toNat = h + 1) :
    ledger.cache.lookup id = some h ↔ .invalidate h ∉ calls := by
  obtain ⟨installation, stored, numbered⟩ :=
    balanced.tracks.numbered h h (List.getElem?_range given)
  have own : installation.code.id = id := UInt64.toNat_inj.mp (numbered.trans number.symm)
  have valid : Codes.isValid ledger.codes h = installation.code.valid := by
    rw [Codes.isValid, stored]
    rfl
  rw [balanced.tracks.found_iff, ← balanced.valid_iff h given, valid, List.mem_range]
  constructor
  · rintro ⟨-, found, stored', -, valid⟩
    rw [stored] at stored'
    cases stored'
    exact valid
  · exact fun valid => ⟨given, installation, stored, own, valid⟩

theorem toNat_counters (fits : SessionCall.Fit calls) :
    ledger.installs.toNat = SessionCall.installs calls ∧
      ledger.invalidations.toNat = ended ∧
      ledger.installedBytes.toNat = SessionCall.installedBytes calls := by
  have room := fits.ids
  have live := balanced.live
  rw [balanced.installs, balanced.invalidations, balanced.installedBytes]
  exact ⟨UInt64.toNat_ofNat_of_lt' (by omega), UInt64.toNat_ofNat_of_lt' (by omega),
    UInt64.toNat_ofNat_of_lt' fits.bytes⟩

end Balanced
end CodeLedger

namespace Session

variable {W : Type} {session : Session W}

/-- A session whose code cache is new starts without code. -/
theorem balanced_initial (new : session.host.cache.IsNew) (world : W) :
    (session.initial world).ledger.Balanced [] 0 where
  tracks := new.tracks
  length := rfl
  valid_iff := nofun
  live := congrArg Table.size new.live
  installs := rfl
  invalidations := rfl
  installedBytes := rfl

/-- What holds after every run that only invalidates code installed before and in which no counter
wraps. The induction is on the calls from the last one on. -/
theorem balanced_afterCalls (new : session.host.cache.IsNew) (world : W)
    (calls : List SessionCall) (owned : SessionCall.InvalidatesInstalled calls)
    (fits : SessionCall.Fit calls) :
    (session.afterCalls (session.initial world) calls).ledger.Balanced calls
      ((session.endings (session.initial world) calls).countP endedValidity) := by
  induction calls using List.reverseRecOn with
  | nil => exact balanced_initial new world
  | append_singleton calls call ih =>
    have balanced := ih owned.of_append fits.of_append
    have step := balanced.step owned fits
    have last := session.endedValidity_call
      (session.afterCalls (session.initial world) calls) call
    rw [← session.ledger_call, ← last] at step
    rw [afterCalls_append, endings_append, List.countP_append]
    simpa only [endings, afterCalls, List.countP_singleton] using step

/-- An installation that succeeds answers with the next handle. -/
theorem eq_installed_of_call {s : State W} {artifact : Artifact} {answer : SessionAnswer}
    (ended : (session.call s (.install artifact)).1 = .ok answer) :
    answer = .installed s.codes.length := by
  obtain ⟨told, s', installed, -⟩ := session.answer_install s artifact
  rw [call, perform, installed] at ended
  cases told with
  | error fault => cases ended
  | ok _ => cases ended; rfl

/-- Of two states before and after an installation: the code is stored, found and counted, once. -/
structure InstalledOnce (before after : State W) (artifact : Artifact) : Prop where
  number : before.cache.nextId.toNat = before.statistics.installs.toNat + 1
  stored : after.codes =
    before.codes ++ [⟨before.cache.nextCode artifact, before.cache.executor⟩]
  found : after.cache.lookup before.cache.nextId = some before.codes.length
  installs : after.statistics.installs.toNat = before.statistics.installs.toNat + 1
  installedBytes : after.statistics.installedBytes.toNat =
    before.statistics.installedBytes.toNat + artifact.code.length
  installedCount : after.cache.installedCount = before.cache.installedCount + 1

/-- Where no counter wraps, an installation installs once, however the listeners end. -/
theorem installedOnce_call {s : State W} {calls : List SessionCall} {ended : Nat}
    (balanced : s.ledger.Balanced calls ended) {artifact : Artifact}
    (owned : SessionCall.InvalidatesInstalled (calls ++ [.install artifact]))
    (fits : SessionCall.Fit (calls ++ [.install artifact])) :
    InstalledOnce s (session.call s (.install artifact)).2 artifact := by
  have after := balanced.step owned fits
  have ledger := session.ledger_call s (.install artifact)
  obtain ⟨installs, -, bytes⟩ := balanced.toNat_counters fits.of_append
  obtain ⟨installs', -, bytes'⟩ := after.toNat_counters fits
  rw [← ledger, SessionCall.installs_append, ← installs] at installs'
  rw [← ledger, SessionCall.installedBytes_append, ← bytes] at bytes'
  exact {
    number := balanced.toNat_nextId.trans (congrArg (· + 1) installs.symm)
    stored := congrArg CodeLedger.codes ledger
    found := by
      have found := s.cache.lookup_afterInstall artifact s.codes.length s.cache.nextId
      rw [if_pos rfl] at found
      exact (congrArg (·.cache.lookup s.cache.nextId) ledger).trans found
    installs := installs'
    installedBytes := bytes'
    installedCount := (congrArg (·.cache.installedCount) ledger).trans
      (balanced.installedCount_install artifact) }

/-- At each point of a run on a session, the counters are those of the calls so far, however the
listeners end: the installations, the bytes of their code, and the invalidations of valid code. The
live code is what was installed and not invalidated. An installation has stored and counted its code
once even if a listener failed: the code is found under the next number and is valid until it is
invalidated, and only the first invalidation is told that it was. -/
theorem counters_conserve_code (session : Session W) (new : session.host.cache.IsNew) (world : W)
    (calls : List SessionCall) (owned : SessionCall.InvalidatesInstalled calls)
    (fits : SessionCall.Fit calls) :
    let after := session.afterCalls (session.initial world)
    let endings := session.endings (session.initial world) calls
    ((after calls).statistics.installs.toNat = SessionCall.installs calls ∧
      (after calls).statistics.installedBytes.toNat = SessionCall.installedBytes calls ∧
      (after calls).statistics.invalidations.toNat = endings.countP endedValidity ∧
      (after calls).cache.installedCount + (after calls).statistics.invalidations.toNat =
        (after calls).statistics.installs.toNat) ∧
    (∀ (before : List SessionCall) (artifact : Artifact) (now later : List SessionCall),
      calls = before ++ .install artifact :: (now ++ later) →
      let handle := (after before).codes.length
      let s := after (before ++ .install artifact :: now)
      InstalledOnce (after before) (after (before ++ [.install artifact])) artifact ∧
        (∀ answer, endings[before.length]? = some (.ok answer) → answer = .installed handle) ∧
        (Codes.isValid s.codes handle = true ↔ .invalidate handle ∉ now) ∧
        (s.cache.lookup (after before).cache.nextId = some handle ↔ .invalidate handle ∉ now)) ∧
    ∀ (before : List SessionCall) (h : Handle) (later : List SessionCall),
      calls = before ++ .invalidate h :: later →
      ∃ was, endings[before.length]? = some (.ok (.invalidated was)) ∧
        (was = true ↔ .invalidate h ∉ before) := by
  intro after endings
  refine ⟨?whole, ?install, ?invalidate⟩
  case whole =>
    have balanced := balanced_afterCalls new world calls owned fits
    obtain ⟨installs, invalidations, bytes⟩ := balanced.toNat_counters fits
    refine ⟨installs, bytes, invalidations, ?_⟩
    calc (after calls).cache.installedCount + (after calls).statistics.invalidations.toNat
        = (after calls).cache.installedCount + endings.countP endedValidity :=
          congrArg _ invalidations
      _ = SessionCall.installs calls := balanced.live
      _ = (after calls).statistics.installs.toNat := installs.symm
  case install =>
    rintro before artifact now later split handle s
    have untilNow : calls = before ++ [.install artifact] ++ now ++ later := by
      rw [split, List.append_assoc, List.append_assoc, List.singleton_append]
    rw [untilNow] at owned fits
    have first := balanced_afterCalls new world before owned.of_append.of_append.of_append
      fits.of_append.of_append.of_append
    have last := balanced_afterCalls new world _ owned.of_append fits.of_append
    have once := session.installedOnce_call first owned.of_append.of_append
      fits.of_append.of_append
    have number : handle = SessionCall.installs before := first.length
    have given : handle < SessionCall.installs (before ++ [.install artifact] ++ now) := by
      rw [SessionCall.installs_append, SessionCall.installs_append, number]
      exact Nat.lt_add_right _ (Nat.lt_succ_self _)
    have told : .invalidate handle ∉ before ++ [.install artifact] ++ now ↔
        .invalidate handle ∉ now := by
      have unknown : .invalidate handle ∉ before := fun mem => Nat.lt_irrefl _
        (number ▸ owned.of_append.of_append.of_append.lt_installs mem)
      simp [unknown]
    rw [show s = after (before ++ [.install artifact] ++ now) by rw [← List.append_cons]]
    refine ⟨?_, ?_, (last.valid_iff handle given).trans told,
      (last.lookup_iff given (number ▸ first.toNat_nextId)).trans told⟩
    · rw [show after (before ++ [.install artifact]) = _ from session.afterCalls_append ..]
      exact once
    · intro answer ended
      have ending := session.getElem?_endings (session.initial world) before (.install artifact)
        (now ++ later)
      rw [← split] at ending
      exact eq_installed_of_call (Option.some.inj (ending.symm.trans ended))
  case invalidate =>
    rintro before h later rfl
    have balanced := balanced_afterCalls new world before owned.of_append fits.of_append
    obtain ⟨s', ended, -⟩ := answer_invalidate (after before) h
    have ending := session.getElem?_endings (session.initial world) before (.invalidate h) later
    rw [Session.call, perform, ended] at ending
    exact ⟨_, ending, balanced.valid_iff h (owned before h later rfl)⟩

/-- The only listener fails. The code is installed, counted and found all the same; the second of
two invalidations is not counted. -/
theorem counters_conserve_code_of_failing_listener :
    let full : Fault := .error (.illegalState "full")
    let plan : Plan Unit := {
      services :=
        (Services.builtin .bytewise).addListener { installed := fun _ _ _ => throw full } }
    let calls : List SessionCall :=
      [.install ⟨"demo", [0xC3], 16, none⟩, .invalidate 0, .invalidate 0]
    ∃ session, (plan.start.runFrom { world := () }).answer.1 = .ok (.running session) ∧
      session.endings (session.initial ()) calls =
        [.error full, .ok (.invalidated true), .ok (.invalidated false)] ∧
      let found := session.afterCalls (session.initial ()) (calls.take 1)
      let ended := session.afterCalls (session.initial ()) calls
      found.cache.lookup 1 = some 0 ∧ ended.cache.installedCount = 0 ∧
        ended.statistics.installs.toNat = 1 ∧ ended.statistics.installedBytes.toNat = 1 ∧
        ended.statistics.invalidations.toNat = 1 := by
  intro full plan calls
  have isFor := BackendFactory.isFor_amd64 .bytewise
  obtain ⟨backend, created⟩ := isFor.exists_backend (show plan.vm.wordSize = 8 from rfl)
  have host : plan.MakesHost (.ok backend) :=
    ⟨0, .amd64 .bytewise, ⟨rfl, by decide, nofun⟩, created⟩
  let session := plan.session backend (Plan.registryOf backend) ⟨none, .stub⟩
  have started : (plan.start.runFrom { world := () }).answer =
      (.ok (.running session), { world := () }) :=
    Plan.leads_start (Plan.leads_stages rfl rfl host (.stub rfl)) nofun 0
  have new : session.host.cache.IsNew := isFor.isNew created
  have endings : session.endings (session.initial ()) calls =
      [.error full, .ok (.invalidated true), .ok (.invalidated false)] := rfl
  obtain ⟨⟨installs, bytes, invalidations, count⟩, installed, -⟩ :=
    session.counters_conserve_code new () calls (by decide) ⟨by decide, by decide⟩
  rw [endings] at invalidations
  obtain ⟨-, -, -, found⟩ := installed [] _ [] _ rfl
  refine ⟨session, congrArg Prod.fst started, endings, ?_, ?_, installs, bytes, invalidations⟩
  · rw [show (session.afterCalls (session.initial ()) []).cache.nextId = 1 from new.nextId] at found
    exact found.mpr nofun
  · rw [invalidations, installs] at count
    exact Nat.add_right_cancel count

end Session
end JitBridge
