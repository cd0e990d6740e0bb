import JitBridge.Architecture.Amd64
import JitBridge.Proofs.Code.Tracking
import Mathlib.Algebra.Ring.Nat
import Mathlib.Data.List.Induction

/-!
Runs of one code cache: calls of any kind in any order, on a cache that begins without code, beside
code of other caches. `CacheState.Keeps` says what holds after each run in which only own code is
invalidated and no counter wraps; `CacheState.keeps_after` proves it, one call after the other. The
calls made so far then decide at each point of a run which code is valid, live and found.
-/

namespace JitBridge

/-! ### Calls and answers -/

/-- A call on a code cache. -/
inductive CacheCall where
  | install (artifact : Artifact)
  | attach (executor : Executor)
  | invalidate (handle : Handle)
  | lookup (id : UInt64)
  | execute (handle : Handle) (args : List Value)
  | listing (handle : Handle)

namespace CacheCall

/-- The bytes set aside by a call. -/
def span : CacheCall → Nat
  | install artifact => CodeCache.span artifact.code.length
  | _ => 0

def isInstall : CacheCall → Bool
  | install _ => true
  | _ => false

/-- The bytes set aside by a run. -/
def spans (calls : List CacheCall) : Nat := (calls.map span).sum

theorem spans_append (calls more : List CacheCall) :
    spans (calls ++ more) = spans calls + spans more := by
  simp [spans]

/-- A call that is no invalidation of `h` leaves open whether `h` was invalidated. -/
theorem mem_append_iff {calls : List CacheCall} {call : CacheCall} {h : Handle}
    (other : call ≠ .invalidate h) :
    .invalidate h ∈ calls ↔ .invalidate h ∈ calls ++ [call] := by
  rw [List.mem_append, List.mem_singleton]
  exact ⟨.inl, fun mem => mem.resolve_right fun same => other same.symm⟩

end CacheCall

/-- The answer to a call on a code cache. -/
inductive CacheAnswer where
  | installed (handle : Handle)
  | attached (first : Bool)
  | invalidated (was : Bool)
  | found (handle : Option Handle)
  | executed (outcome : Option (Except Fault Value))
  | listed (text : Option (Except Panic String))

namespace CacheAnswer

/-- The handle that was given out, if one was. -/
def installed? : CacheAnswer → Option Handle
  | installed handle => some handle
  | _ => none

/-- Whether valid code was invalidated. -/
def endedValidity : CacheAnswer → Bool
  | invalidated was => was
  | _ => false

/-- The handles given out, in order. -/
def handles (answers : List CacheAnswer) : List Handle := answers.filterMap installed?

theorem handles_append (answers more : List CacheAnswer) :
    handles (answers ++ more) = handles answers ++ handles more :=
  List.filterMap_append

end CacheAnswer

/-! ### Runs -/

/-- A code cache, and all installed code. -/
structure CacheState where
  cache : CodeCache
  codes : Codes

namespace CacheState

/-- A new cache, beside the code of other caches. -/
def start (target : Target) (decoder : Option Decoder) (others : Codes) : CacheState where
  cache := { target, decoder }
  codes := others

/-- One call: its answer, and the state after it. -/
def call (state : CacheState) : CacheCall → CacheAnswer × CacheState
  | .install artifact =>
    let (handle, cache, codes) := (state.cache.install state.codes artifact).answer
    (.installed handle, ⟨cache, codes⟩)
  | .attach executor =>
    let (first, cache) := state.cache.attach executor
    (.attached first, ⟨cache, state.codes⟩)
  | .invalidate handle =>
    let (was, cache, codes) := (state.cache.invalidate state.codes handle).answer
    (.invalidated was, ⟨cache, codes⟩)
  | .lookup id => (.found (state.cache.lookup id), state)
  | .execute handle args => (.executed (state.codes.execute handle args), state)
  | .listing handle =>
    (.listed (state.codes[handle]?.bind fun installation =>
      state.cache.listing installation.code), state)

/-- The state after the calls of a run. -/
def after (state : CacheState) : List CacheCall → CacheState
  | [] => state
  | call :: calls => (state.call call).2.after calls

/-- The answers to the calls of a run, in order. -/
def answers (state : CacheState) : List CacheCall → List CacheAnswer
  | [] => []
  | call :: calls => (state.call call).1 :: (state.call call).2.answers calls

/-- The handles given out in a run, in order. -/
def handles (state : CacheState) (calls : List CacheCall) : List Handle :=
  CacheAnswer.handles (state.answers calls)

/-- Only handles that were given out before are invalidated in the run. -/
def InvalidatesOwn (state : CacheState) (calls : List CacheCall) : Prop :=
  ∀ (before : List CacheCall) (h : Handle) (later : List CacheCall),
    calls = before ++ .invalidate h :: later → h ∈ state.handles before

theorem after_append (state : CacheState) (calls more : List CacheCall) :
    state.after (calls ++ more) = (state.after calls).after more := by
  induction calls generalizing state with
  | nil => rfl
  | cons call calls ih => exact ih (state.call call).2

theorem answers_append (state : CacheState) (calls more : List CacheCall) :
    state.answers (calls ++ more) = state.answers calls ++ (state.after calls).answers more := by
  induction calls generalizing state with
  | nil => rfl
  | cons call calls ih => exact congrArg _ (ih (state.call call).2)

@[simp] theorem length_answers (state : CacheState) (calls : List CacheCall) :
    (state.answers calls).length = calls.length := by
  induction calls generalizing state with
  | nil => rfl
  | cons call calls ih => exact congrArg Nat.succ (ih (state.call call).2)

/-- The answer in a run is the answer to the call in the state before it. -/
theorem getElem?_answers (state : CacheState) (before : List CacheCall) (call : CacheCall)
    (later : List CacheCall) :
    (state.answers (before ++ call :: later))[before.length]? =
      some ((state.after before).call call).1 := by
  rw [answers_append, List.getElem?_append_right (by simp)]
  simp [answers]

theorem InvalidatesOwn.of_append {state : CacheState} {calls more : List CacheCall}
    (owned : state.InvalidatesOwn (calls ++ more)) : state.InvalidatesOwn calls := by
  intro before h later split
  refine owned before h (later ++ more) ?_
  rw [split, List.append_assoc, List.cons_append]

/-- Neither counter of the cache wraps in the run. -/
structure Fits (state : CacheState) (calls : List CacheCall) : Prop where
  ids : state.cache.nextId.toNat + calls.countP CacheCall.isInstall < UInt64.size
  addresses : state.cache.nextAddress.toNat + CacheCall.spans calls < UInt64.size

theorem Fits.of_append {state : CacheState} {calls more : List CacheCall}
    (fits : state.Fits (calls ++ more)) : state.Fits calls where
  ids := by
    have ids := fits.ids
    rw [List.countP_append] at ids
    omega
  addresses := by
    have addresses := fits.addresses
    rw [CacheCall.spans_append] at addresses
    omega

/-! ### What one call does -/

theorem call_invalidate {state : CacheState} {h : Handle} {installation : Installation}
    (found : state.codes[h]? = some installation) :
    state.call (.invalidate h) =
      (.invalidated installation.code.valid,
        ⟨{ state.cache with live := state.cache.live.erase installation.code.id },
          state.codes.set h { installation with code := installation.code.invalidate }⟩) := by
  rw [call, CodeCache.answer_invalidate state.cache found]

theorem call_invalidate_of_missing {state : CacheState} {h : Handle}
    (missing : state.codes[h]? = none) :
    state.call (.invalidate h) = (.invalidated false, state) := by
  rw [call, CodeCache.invalidate, missing]
  rfl

/-- Only an installation gives out a handle: the next place in the list. -/
theorem installed?_call (state : CacheState) (call : CacheCall) :
    (state.call call).1.installed? = if call.isInstall then some state.codes.length else none := by
  cases call <;> rfl

/-- The handles after one more call. -/
theorem handles_call (state : CacheState) (answers : List CacheAnswer) (call : CacheCall) :
    CacheAnswer.handles (answers ++ [(state.call call).1]) =
      CacheAnswer.handles answers ++ if call.isInstall then [state.codes.length] else [] := by
  rw [CacheAnswer.handles_append, CacheAnswer.handles, CacheAnswer.handles, List.filterMap_cons,
    installed?_call]
  cases call.isInstall <;> rfl

theorem handles_of_not_install (state : CacheState) (answers : List CacheAnswer) {call : CacheCall}
    (other : call.isInstall = false) :
    CacheAnswer.handles (answers ++ [(state.call call).1]) = CacheAnswer.handles answers := by
  rw [handles_call, other]
  exact List.append_nil _

/-- Only an installation moves the counters of the cache. -/
theorem counters_call_of_not_install (state : CacheState) {call : CacheCall}
    (other : call.isInstall = false) :
    (state.call call).2.cache.nextId = state.cache.nextId ∧
      (state.call call).2.cache.nextAddress = state.cache.nextAddress := by
  cases call with
  | install artifact => cases other
  | attach executor =>
    rw [CacheState.call, CodeCache.attach]
    cases state.cache.executor with
    | none => exact ⟨rfl, rfl⟩
    | some first => exact ⟨rfl, rfl⟩
  | invalidate h =>
    cases found : state.codes[h]? with
    | none =>
      rw [call_invalidate_of_missing found]
      exact ⟨rfl, rfl⟩
    | some installation =>
      rw [call_invalidate found]
      exact ⟨rfl, rfl⟩
  | _ => exact ⟨rfl, rfl⟩

/-- The address counter moves by what the call sets aside. -/
theorem nextAddress_call (state : CacheState) (call : CacheCall) :
    (state.call call).2.cache.nextAddress =
      state.cache.nextAddress + UInt64.ofNat call.span := by
  cases call with
  | install artifact => rfl
  | _ => exact (state.counters_call_of_not_install rfl).2.trans (UInt64.add_zero _).symm

/-- Code keeps its number and its entry. -/
theorem getElem?_codes_call (state : CacheState) (call : CacheCall) {h : Handle}
    {installation : Installation} (stored : state.codes[h]? = some installation) :
    ∃ changed : Installation, (state.call call).2.codes[h]? = some changed ∧
      changed.code.id = installation.code.id ∧ changed.code.entry = installation.code.entry := by
  obtain ⟨within, -⟩ := List.getElem?_eq_some_iff.mp stored
  cases call with
  | install artifact =>
    refine ⟨installation, ?_, rfl, rfl⟩
    rw [← stored]
    exact List.getElem?_append_left within
  | invalidate g =>
    cases found : state.codes[g]? with
    | none =>
      rw [call_invalidate_of_missing found]
      exact ⟨installation, stored, rfl, rfl⟩
    | some other =>
      rw [call_invalidate found]
      by_cases same : g = h
      · subst same
        rw [stored] at found
        cases found
        exact ⟨_, List.getElem?_set_self within, InstalledCode.id_invalidate _,
          InstalledCode.entry_invalidate _⟩
      · exact ⟨installation, (List.getElem?_set_ne same).trans stored, rfl, rfl⟩
  | _ => exact ⟨installation, stored, rfl, rfl⟩

/-- Code keeps its number and its entry throughout a run. -/
theorem getElem?_codes_after (state : CacheState) (calls : List CacheCall) {h : Handle}
    {installation : Installation} (stored : state.codes[h]? = some installation) :
    ∃ changed : Installation, (state.after calls).codes[h]? = some changed ∧
      changed.code.id = installation.code.id ∧ changed.code.entry = installation.code.entry := by
  induction calls generalizing state installation with
  | nil => exact ⟨installation, stored, rfl, rfl⟩
  | cons call calls ih =>
    obtain ⟨changed, stored', id, entry⟩ := state.getElem?_codes_call call stored
    obtain ⟨last, found, id', entry'⟩ := ih (state.call call).2 stored'
    exact ⟨last, found, id'.trans id, entry'.trans entry⟩

/-- What is stored under a handle has one number and one entry at all points of a run. -/
theorem exists_id_entry (state : CacheState) (calls : List CacheCall) :
    ∃ id entry : Handle → UInt64, ∀ before later : List CacheCall, calls = before ++ later →
      ∀ (h : Handle) (installation : Installation),
        (state.after before).codes[h]? = some installation →
          installation.code.id = id h ∧ installation.code.entry = entry h := by
  -- What a handle shows at the end of the run, it shows from its first point on.
  refine ⟨fun h => ((state.after calls).codes[h]?.map (·.code.id)).getD 0,
    fun h => ((state.after calls).codes[h]?.map (·.code.entry)).getD 0, ?_⟩
  rintro before later rfl h installation stored
  obtain ⟨last, found, id, entry⟩ := (state.after before).getElem?_codes_after later stored
  simp only [after_append, found, Option.map_some, Option.getD_some]
  exact ⟨id.symm, entry.symm⟩

end CacheState

/-! ### Validity along a run -/

/-- The handle shows whether the code was invalidated: valid code is of version 0, and all other
code of version 1. -/
structure InstalledCode.Shows (code : InstalledCode) (invalidated : Prop) : Prop where
  valid_iff : code.valid = true ↔ ¬ invalidated
  version : code.version = if code.valid then 0 else 1
  entry : code.entry ≠ 0

namespace InstalledCode.Shows

variable {code : InstalledCode} {invalidated other : Prop}

theorem congr (shows : code.Shows invalidated) (same : invalidated ↔ other) : code.Shows other where
  valid_iff := shows.valid_iff.trans (not_congr same)
  version := shows.version
  entry := shows.entry

/-- Invalidating code again changes nothing. -/
theorem invalidate (shows : code.Shows invalidated) : code.invalidate.Shows True where
  valid_iff := by simp
  version := by
    have version := shows.version
    rw [valid_invalidate, InstalledCode.invalidate]
    by_cases valid : code.valid = true
    · rw [if_pos valid] at version ⊢
      simp [version]
    · rw [if_neg valid] at version ⊢
      exact version
  entry := code.entry_invalidate ▸ shows.entry

end InstalledCode.Shows

namespace CacheState

/-- What holds after the calls of a run and their answers. -/
structure Keeps (state : CacheState) (calls : List CacheCall) (answers : List CacheAnswer) :
    Prop where
  tracks : state.cache.Tracks state.codes (CacheAnswer.handles answers)
  own : ∀ h : Handle, .invalidate h ∈ calls → h ∈ CacheAnswer.handles answers
  shows : ∀ h ∈ CacheAnswer.handles answers, ∃ installation : Installation,
    state.codes[h]? = some installation ∧ installation.code.Shows (.invalidate h ∈ calls)
  installs : (CacheAnswer.handles answers).length = calls.countP CacheCall.isInstall
  /-- Code is live, or one call was told that it ended its validity. -/
  balance : state.cache.installedCount + answers.countP CacheAnswer.endedValidity =
    calls.countP CacheCall.isInstall
  nextAddress : state.cache.nextAddress.toNat = 0x7f0000000000 + CacheCall.spans calls

namespace Keeps

theorem start (target : Target) (decoder : Option Decoder) (others : Codes) :
    Keeps (CacheState.start target decoder others) [] [] where
  tracks := .of_new target decoder others
  own := by simp
  shows := by simp [CacheAnswer.handles]
  installs := rfl
  balance := rfl
  nextAddress := rfl

variable {state : CacheState} {calls : List CacheCall} {answers : List CacheAnswer}
  (keeps : state.Keeps calls answers)

include keeps

/-- The counters of a run that fits leave room for the next call. -/
theorem fits_call {target : Target} {decoder : Option Decoder} {others : Codes} {call : CacheCall}
    (fits : (CacheState.start target decoder others).Fits (calls ++ [call])) :
    state.Fits [call] where
  ids := by
    have ids := fits.ids
    have first : (CacheState.start target decoder others).cache.nextId.toNat = 1 := rfl
    rw [List.countP_append, first] at ids
    rw [keeps.tracks.nextId, keeps.installs]
    omega
  addresses := by
    have addresses := fits.addresses
    have first : (CacheState.start target decoder others).cache.nextAddress.toNat =
        0x7f0000000000 := rfl
    rw [CacheCall.spans_append, first] at addresses
    rw [keeps.nextAddress]
    omega

theorem shows_install (artifact : Artifact) (h : Handle)
    (mem : h ∈ CacheAnswer.handles answers ++ [state.codes.length]) :
    ∃ installation : Installation,
      (state.call (.install artifact)).2.codes[h]? = some installation ∧
        installation.code.Shows (.invalidate h ∈ calls ++ [.install artifact]) := by
  rcases List.mem_append.mp mem with old | new
  · obtain ⟨installation, stored, shows⟩ := keeps.shows h old
    exact ⟨installation, (keeps.tracks.getElem?_append old _).trans stored,
      shows.congr (CacheCall.mem_append_iff nofun)⟩
  · obtain rfl := List.mem_singleton.mp new
    have fresh : ¬ .invalidate state.codes.length ∈ calls ++ [.install artifact] := fun mem =>
      keeps.tracks.length_not_mem (keeps.own _ ((CacheCall.mem_append_iff (by nofun)).mpr mem))
    refine ⟨_, List.getElem?_concat_length, ⟨iff_of_true rfl fresh, rfl, fun null => ?_⟩⟩
    have address := keeps.nextAddress
    rw [show state.cache.nextAddress = 0 from null, UInt64.toNat_zero] at address
    omega

theorem shows_invalidate {g : Handle} (own : g ∈ CacheAnswer.handles answers) (h : Handle)
    (mem : h ∈ CacheAnswer.handles answers) :
    ∃ installation : Installation,
      (state.call (.invalidate g)).2.codes[h]? = some installation ∧
        installation.code.Shows (.invalidate h ∈ calls ++ [.invalidate g]) := by
  obtain ⟨installation, stored, shows⟩ := keeps.shows g own
  rw [call_invalidate stored]
  by_cases same : g = h
  · subst same
    refine ⟨_, keeps.tracks.getElem?_set_self own _, shows.invalidate.congr ?_⟩
    exact iff_of_true trivial (List.mem_append_right _ (List.mem_singleton_self _))
  · obtain ⟨other, stored', shows'⟩ := keeps.shows h mem
    refine ⟨other, (List.getElem?_set_ne same).trans stored', shows'.congr ?_⟩
    exact CacheCall.mem_append_iff fun equal => same (CacheCall.invalidate.inj equal)

variable {call : CacheCall}

theorem installs_call :
    (CacheAnswer.handles (answers ++ [(state.call call).1])).length =
      (calls ++ [call]).countP CacheCall.isInstall := by
  rw [handles_call, List.length_append, keeps.installs, List.countP_append, List.countP_singleton]
  cases call.isInstall <;> rfl

theorem nextAddress_call (fits : state.Fits [call]) :
    (state.call call).2.cache.nextAddress.toNat =
      0x7f0000000000 + CacheCall.spans (calls ++ [call]) := by
  have addresses := fits.addresses
  have one : CacheCall.spans [call] = call.span := Nat.add_zero _
  rw [one] at addresses
  have small : call.span < UInt64.size := by omega
  rw [CacheState.nextAddress_call, UInt64.toNat_add, UInt64.toNat_ofNat_of_lt' small,
    Nat.mod_eq_of_lt addresses, keeps.nextAddress, CacheCall.spans_append, one, Nat.add_assoc]

variable (owned : ∀ h : Handle, call = .invalidate h → h ∈ CacheAnswer.handles answers)

include owned

theorem own_call (h : Handle) (mem : .invalidate h ∈ calls ++ [call]) :
    h ∈ CacheAnswer.handles (answers ++ [(state.call call).1]) := by
  rw [handles_call]
  refine List.mem_append_left _ ?_
  rcases List.mem_append.mp mem with earlier | last
  · exact keeps.own h earlier
  · exact owned h (List.mem_singleton.mp last).symm

theorem tracks_call (fits : state.Fits [call]) :
    (state.call call).2.cache.Tracks (state.call call).2.codes
      (CacheAnswer.handles (answers ++ [(state.call call).1])) := by
  cases call with
  | install artifact =>
    rw [handles_call]
    refine keeps.tracks.install artifact ?_
    have ids := fits.ids
    rw [keeps.tracks.nextId] at ids
    exact ids
  | invalidate h =>
    obtain ⟨installation, stored, -⟩ := keeps.shows h (owned h rfl)
    rw [handles_of_not_install state answers rfl, call_invalidate stored]
    exact keeps.tracks.invalidate (owned h rfl) stored
  | attach executor =>
    rw [handles_of_not_install state answers rfl]
    exact keeps.tracks.attach executor
  | _ =>
    rw [handles_of_not_install state answers rfl]
    exact keeps.tracks

theorem shows_call (h : Handle)
    (mem : h ∈ CacheAnswer.handles (answers ++ [(state.call call).1])) :
    ∃ installation : Installation, (state.call call).2.codes[h]? = some installation ∧
      installation.code.Shows (.invalidate h ∈ calls ++ [call]) := by
  cases call with
  | install artifact =>
    rw [handles_call] at mem
    exact keeps.shows_install artifact h mem
  | invalidate g =>
    rw [handles_of_not_install state answers rfl] at mem
    exact keeps.shows_invalidate (owned g rfl) h mem
  | _ =>
    rw [handles_of_not_install state answers rfl] at mem
    obtain ⟨installation, stored, shows⟩ := keeps.shows h mem
    exact ⟨installation, stored, shows.congr (CacheCall.mem_append_iff nofun)⟩

/-- An installation adds one to the live codes, and an invalidation takes one away if it is told
that the code was valid. -/
theorem balance_call :
    (state.call call).2.cache.installedCount +
      (answers ++ [(state.call call).1]).countP CacheAnswer.endedValidity =
        (calls ++ [call]).countP CacheCall.isInstall := by
  have balance := keeps.balance
  rw [List.countP_append, List.countP_append, List.countP_singleton, List.countP_singleton]
  cases call with
  | install artifact =>
    have live := keeps.tracks.installedCount_install artifact state.codes.length
    simp only [CacheState.call, CodeCache.answer_install, live, CacheAnswer.endedValidity,
      CacheCall.isInstall, Bool.false_eq_true, if_false, if_true]
    omega
  | invalidate h =>
    obtain ⟨installation, stored, -⟩ := keeps.shows h (owned h rfl)
    have live := keeps.tracks.installedCount_erase (owned h rfl) stored
    simp only [call_invalidate stored, CacheAnswer.endedValidity, CacheCall.isInstall,
      Bool.false_eq_true, if_false]
    omega
  | attach executor =>
    have live : (state.cache.attach executor).2.installedCount = state.cache.installedCount := by
      rw [(keeps.tracks.attach executor).count, keeps.tracks.count]
    simp only [CacheState.call, live, CacheAnswer.endedValidity, CacheCall.isInstall,
      Bool.false_eq_true, if_false]
    omega
  | _ => exact balance

/-- One more call, on own code if it invalidates. -/
theorem step (fits : state.Fits [call]) :
    (state.call call).2.Keeps (calls ++ [call]) (answers ++ [(state.call call).1]) where
  tracks := keeps.tracks_call owned fits
  own := keeps.own_call owned
  shows := keeps.shows_call owned
  installs := keeps.installs_call
  balance := keeps.balance_call owned
  nextAddress := keeps.nextAddress_call fits

end Keeps

/-- What holds after every run that only invalidates own code and in which no counter wraps. -/
theorem keeps_after (target : Target) (decoder : Option Decoder) (others : Codes)
    (calls : List CacheCall) (owned : (start target decoder others).InvalidatesOwn calls)
    (fits : (start target decoder others).Fits calls) :
    ((start target decoder others).after calls).Keeps calls
      ((start target decoder others).answers calls) := by
  induction calls using List.reverseRecOn with
  | nil => exact .start target decoder others
  | append_singleton calls call ih =>
    have keeps := ih owned.of_append fits.of_append
    rw [after_append, answers_append]
    refine keeps.step (fun h last => ?_) (keeps.fits_call fits)
    exact owned calls h [] (by rw [last])

namespace Keeps

variable {state : CacheState} {calls : List CacheCall} {answers : List CacheAnswer}
  (keeps : state.Keeps calls answers) {h : Handle} (own : h ∈ CacheAnswer.handles answers)
  {installation : Installation} (stored : state.codes[h]? = some installation)

include keeps own stored

theorem shows_stored : installation.code.Shows (.invalidate h ∈ calls) := by
  obtain ⟨installation', stored', shows⟩ := keeps.shows h own
  rw [stored] at stored'
  cases stored'
  exact shows

/-- Own code is found under its number until it is invalidated. -/
theorem lookup_eq_some_iff (id : UInt64) :
    state.cache.lookup id = some h ↔ installation.code.id = id ∧ .invalidate h ∉ calls := by
  rw [keeps.tracks.found_iff, ← (keeps.shows_stored own stored).valid_iff]
  constructor
  · rintro ⟨-, installation', stored', found⟩
    rw [stored] at stored'
    cases stored'
    exact found
  · rintro found
    exact ⟨own, installation, stored, found⟩

end Keeps

/-- At each point of a run that only invalidates own code and in which no counter wraps, the calls
made so far decide which code is valid. Code is found exactly under its number and until its first
invalidation; the number of live codes is that of the valid handles, and that of the installations
less the invalidations that were told so; and the code of a handle keeps one entry, which is its
address while it is valid. -/
theorem validity_along_run (target : Target) (decoder : Option Decoder) (others : Codes)
    (calls : List CacheCall) (owned : (start target decoder others).InvalidatesOwn calls)
    (fits : (start target decoder others).Fits calls) :
    ∃ id entry : Handle → UInt64, ∀ before later : List CacheCall, calls = before ++ later →
      let state := (start target decoder others).after before
      let given := (start target decoder others).handles before
      (∀ (key : UInt64) (h : Handle), state.cache.lookup key = some h ↔
        h ∈ given ∧ id h = key ∧ .invalidate h ∉ before) ∧
      state.cache.installedCount = given.countP (Codes.isValid state.codes) ∧
      state.cache.installedCount +
          ((start target decoder others).answers before).countP CacheAnswer.endedValidity =
        before.countP CacheCall.isInstall ∧
      (∀ h ∈ given, ∃ installation : Installation, state.codes[h]? = some installation ∧
        installation.code.id = id h ∧
        (installation.code.valid = true ↔ .invalidate h ∉ before) ∧
        installation.code.version = (if installation.code.valid then 0 else 1) ∧
        entry h ≠ 0 ∧
        installation.code.address = (if installation.code.valid then entry h else 0)) ∧
      ∀ (h : Handle) (rest : List CacheCall), later = .invalidate h :: rest →
        ∃ was : Bool, ((start target decoder others).answers calls)[before.length]? =
            some (.invalidated was) ∧ (was = true ↔ .invalidate h ∉ before) := by
  obtain ⟨id, entry, fixed⟩ := (start target decoder others).exists_id_entry calls
  refine ⟨id, entry, ?_⟩
  rintro before later rfl state given
  have fixed := fixed before later rfl
  have keeps : state.Keeps before ((start target decoder others).answers before) :=
    keeps_after target decoder others before owned.of_append fits.of_append
  refine ⟨fun key h => ?_, keeps.tracks.count, keeps.balance, fun h own => ?_, ?_⟩
  · constructor
    · intro found
      have own : h ∈ given := ((keeps.tracks.found_iff key h).mp found).1
      obtain ⟨installation, stored, -⟩ := keeps.shows h own
      obtain ⟨numbered, valid⟩ := (keeps.lookup_eq_some_iff own stored key).mp found
      exact ⟨own, (fixed h installation stored).1.symm.trans numbered, valid⟩
    · rintro ⟨own, numbered, valid⟩
      obtain ⟨installation, stored, -⟩ := keeps.shows h own
      refine (keeps.lookup_eq_some_iff own stored key).mpr ⟨?_, valid⟩
      exact (fixed h installation stored).1.trans numbered
  · obtain ⟨installation, stored, shows⟩ := keeps.shows h own
    obtain ⟨numbered, starts⟩ := fixed h installation stored
    refine ⟨installation, stored, numbered, shows.valid_iff, shows.version, ?_, ?_⟩
    · exact starts ▸ shows.entry
    · rw [InstalledCode.address, starts]
  · rintro h rest rfl
    have own : h ∈ given := owned before h rest rfl
    obtain ⟨installation, stored, shows⟩ := keeps.shows h own
    refine ⟨installation.code.valid, ?_, shows.valid_iff⟩
    rw [getElem?_answers, call_invalidate stored]

/-- Of two installations the first is invalidated twice: only the first of these calls is told that
the code was valid, and the code is not found any more. -/
theorem validity_along_run_of_two :
    let target := Target.ofArchitecture Amd64.architecture 16 true
    let others : Codes := [⟨⟨1, 0x1000, 0, true, ⟨"other", [], 0, none⟩⟩, none⟩]
    let code : CacheCall := .install ⟨"code", [0xC3], 16, none⟩
    let calls := [code, code, .invalidate 1, .invalidate 1]
    (start target none others).InvalidatesOwn calls ∧ (start target none others).Fits calls ∧
      ((start target none others).answers calls)[2]? = some (.invalidated true) ∧
      ((start target none others).answers calls)[3]? = some (.invalidated false) ∧
      ((start target none others).after calls).cache.lookup 1 ≠ some 1 := by
  intro target others code calls
  have owned : (start target none others).InvalidatesOwn calls := by
    intro before h later split
    rcases before with _ | ⟨first, _ | ⟨second, _ | ⟨third, _ | ⟨fourth, before⟩⟩⟩⟩
    all_goals
      simp only [calls, List.nil_append, List.cons_append, List.cons.injEq] at split
    · exact absurd split.1 nofun
    · exact absurd split.2.1 nofun
    · obtain ⟨rfl, rfl, last, -⟩ := split
      cases last
      exact .head _
    · obtain ⟨rfl, rfl, rfl, last, -⟩ := split
      cases last
      exact .head _
    · simp at split
  have fits : (start target none others).Fits calls := ⟨by decide, by decide⟩
  refine ⟨owned, fits, ?_⟩
  obtain ⟨id, entry, point⟩ := validity_along_run target none others calls owned fits
  obtain ⟨-, -, -, -, first⟩ := point [code, code] [.invalidate 1, .invalidate 1] rfl
  obtain ⟨-, -, -, -, second⟩ := point [code, code, .invalidate 1] [.invalidate 1] rfl
  obtain ⟨lookup, -⟩ := point calls [] rfl
  obtain ⟨was, told, valid⟩ := first 1 _ rfl
  obtain ⟨was', told', valid'⟩ := second 1 _ rfl
  have was_valid : was = true := valid.mpr (by simp [code])
  have was_invalid : was' = false := Bool.eq_false_iff.mpr fun valid => valid'.mp valid (by simp)
  rw [was_valid] at told
  rw [was_invalid] at told'
  exact ⟨told, told', fun found => ((lookup 1 1).mp found).2.2 (by simp [calls])⟩

end CacheState
end JitBridge
