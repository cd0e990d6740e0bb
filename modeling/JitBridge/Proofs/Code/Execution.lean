import JitBridge.Proofs.Code.History
import JitBridge.Proofs.Code.Ownership

/-!
Runs of several code caches: calls of any kind in any order, each one at the place of a cache. The
calls made so far decide what the execution of code comes to: whether one of them, through any
cache, invalidated the code (`CodeSpace.getElem?_codes_after`), and which executor was the first one
of its cache when it was installed (`CodeSpace.executor?_after`).
-/

namespace JitBridge

/-! ### Calls -/

namespace InstalledCode

@[simp] theorem artifact_invalidate (code : InstalledCode) :
    code.invalidate.artifact = code.artifact := by
  unfold invalidate
  split <;> rfl

theorem invalidate_invalidate (code : InstalledCode) :
    code.invalidate.invalidate = code.invalidate := by
  rw [invalidate, if_neg (by simp)]

end InstalledCode

namespace Installation

/-- The installation after its code was invalidated, if it was. -/
def endedIf (installation : Installation) (ended : Bool) : Installation :=
  if ended then { installation with code := installation.code.invalidate } else installation

variable (installation : Installation) (args : List Value)

@[simp] theorem endedIf_false : installation.endedIf false = installation := rfl

theorem endedIf_endedIf (first second : Bool) :
    (installation.endedIf first).endedIf second = installation.endedIf (first || second) := by
  cases first with
  | false => rfl
  | true =>
    cases second with
    | false => rfl
    | true => simp [endedIf, InstalledCode.invalidate_invalidate]

@[simp] theorem artifact_endedIf (ended : Bool) :
    (installation.endedIf ended).code.artifact = installation.code.artifact := by
  cases ended with
  | false => rfl
  | true => exact installation.code.artifact_invalidate

@[simp] theorem id_endedIf (ended : Bool) :
    (installation.endedIf ended).code.id = installation.code.id := by
  cases ended with
  | false => rfl
  | true => exact installation.code.id_invalidate

@[simp] theorem entry_endedIf (ended : Bool) :
    (installation.endedIf ended).code.entry = installation.code.entry := by
  cases ended with
  | false => rfl
  | true => exact installation.code.entry_invalidate

/-- Invalidated code is not executed, whatever its executor. -/
theorem execute_endedIf_true :
    (installation.endedIf true).execute args =
      .error (.error (.invalidInstalledCode installation.code.name)) := by
  have invalid : (installation.endedIf true).code.valid = false :=
    installation.code.valid_invalidate
  have name : (installation.endedIf true).code.name = installation.code.name :=
    congrArg Artifact.name installation.code.artifact_invalidate
  rw [execute, invalid, name]
  rfl

theorem execute_of_no_executor {code : InstalledCode} (valid : code.valid = true) :
    execute ⟨code, none⟩ args = .error (.error (.notExecutable code.name)) := by
  rw [execute, valid]
  rfl

theorem execute_of_executor {code : InstalledCode} (valid : code.valid = true)
    (executor : Executor) : execute ⟨code, some executor⟩ args = executor code args := by
  rw [execute, valid]
  rfl

end Installation

namespace CacheCall

/-- Whether the call invalidates the code of a handle. -/
def invalidates (h : Handle) : CacheCall → Bool
  | invalidate g => g == h
  | _ => false

/-- The executor that is to be attached. -/
def executor? : CacheCall → Option Executor
  | attach executor => some executor
  | _ => none

theorem invalidates_iff {h : Handle} {call : CacheCall} :
    call.invalidates h = true ↔ call = .invalidate h := by
  cases call <;> simp [invalidates]

theorem executor?_eq_some_iff {call : CacheCall} {executor : Executor} :
    call.executor? = some executor ↔ call = .attach executor := by
  cases call <;> simp [executor?]

end CacheCall

namespace CacheState

variable (state : CacheState) (call : CacheCall)

/-- A cache takes the executor of a call if it has none. -/
theorem executor_call :
    (state.call call).2.cache.executor = state.cache.executor.or call.executor? := by
  cases call with
  | attach executor =>
    rw [CacheState.call, CodeCache.attach, CacheCall.executor?]
    cases held : state.cache.executor with
    | none => rfl
    | some first => exact held
  | invalidate h =>
    show _ = state.cache.executor.or none
    rw [Option.or_none]
    cases found : state.codes[h]? with
    | none => rw [call_invalidate_of_missing found]
    | some installation => rw [call_invalidate found]
  | _ => exact (Option.or_none ..).symm

/-- A call changes what is stored only if it invalidates it. -/
theorem getElem?_codes_call_eq {h : Handle} {installation : Installation}
    (stored : state.codes[h]? = some installation) :
    (state.call call).2.codes[h]? = some (installation.endedIf (call.invalidates h)) := by
  obtain ⟨within, -⟩ := List.getElem?_eq_some_iff.mp stored
  cases call with
  | install artifact => exact (List.getElem?_append_left within).trans stored
  | invalidate g =>
    by_cases same : g = h
    · subst same
      rw [call_invalidate stored, CacheCall.invalidates, beq_self_eq_true]
      exact List.getElem?_set_self within
    · rw [CacheCall.invalidates, beq_false_of_ne same, Installation.endedIf_false, ← stored]
      cases found : state.codes[g]? with
      | none => rw [call_invalidate_of_missing found]
      | some other =>
        rw [call_invalidate found]
        exact List.getElem?_set_ne same
  | _ => exact stored

end CacheState

/-! ### Runs -/

namespace CodeSpace

/-- One call on the cache at a place: its answer, and the state after it. -/
def call (space : CodeSpace) (place : Nat) : CacheCall → Option CacheAnswer × CodeSpace
  | .install artifact =>
    let (handle, space) := (space.install place artifact).answer
    (handle.map .installed, space)
  | .attach executor =>
    let (first, space) := space.attach place executor
    (some (.attached first), space)
  | .invalidate handle =>
    let (was, space) := (space.invalidate place handle).answer
    (some (.invalidated was), space)
  | .lookup id => (some (.found (space.lookup place id)), space)
  | .execute handle args => (some (.executed (space.codes.execute handle args)), space)
  | .listing handle => (some (.listed (space.listing place handle)), space)

/-- The state after the calls of a run. -/
def after (space : CodeSpace) : List (Nat × CacheCall) → CodeSpace
  | [] => space
  | (place, call) :: calls => (space.call place call).2.after calls

/-- The answers to the calls of a run, in order. -/
def answers (space : CodeSpace) : List (Nat × CacheCall) → List (Option CacheAnswer)
  | [] => []
  | (place, call) :: calls => (space.call place call).1 :: (space.call place call).2.answers calls

theorem after_append (space : CodeSpace) (calls more : List (Nat × CacheCall)) :
    space.after (calls ++ more) = (space.after calls).after more := by
  induction calls generalizing space with
  | nil => rfl
  | cons call calls ih => exact ih (space.call call.1 call.2).2

/-- The answer in a run is the answer to the call in the state before it. -/
theorem getElem?_answers (space : CodeSpace) (before : List (Nat × CacheCall)) (place : Nat)
    (call : CacheCall) (later : List (Nat × CacheCall)) :
    (space.answers (before ++ (place, call) :: later))[before.length]? =
      some ((space.after before).call place call).1 := by
  induction before generalizing space with
  | nil => rfl
  | cons first before ih => exact ih (space.call first.1 first.2).2

/-! ### What one call does -/

section

variable {space : CodeSpace} {place : Nat} {cache : CodeCache}

theorem put_self (found : space.caches[place]? = some cache) :
    space.put place cache space.codes = space := by
  obtain ⟨within, rfl⟩ := List.getElem?_eq_some_iff.mp found
  rw [put, List.set_getElem_self]

/-- A call is a call on the one cache, over the code of all of them. -/
theorem call_of_found (found : space.caches[place]? = some cache) (call : CacheCall) :
    space.call place call =
      (some ((CacheState.mk cache space.codes).call call).1,
        space.put place ((CacheState.mk cache space.codes).call call).2.cache
          ((CacheState.mk cache space.codes).call call).2.codes) := by
  cases call with
  | install artifact =>
    rw [CodeSpace.call, answer_install found]
    rfl
  | attach executor =>
    rw [CodeSpace.call, attach_of_found found]
    rfl
  | invalidate h =>
    rw [CodeSpace.call, invalidate, found]
    rfl
  | lookup id =>
    rw [CodeSpace.call, lookup, found]
    exact Prod.ext rfl (put_self found).symm
  | execute h args => exact Prod.ext rfl (put_self found).symm
  | listing h =>
    rw [CodeSpace.call, listing, found]
    exact Prod.ext rfl (put_self found).symm

theorem call_of_missing (missing : space.caches[place]? = none) (call : CacheCall) :
    (space.call place call).2 = space := by
  cases call with
  | install artifact =>
    rw [CodeSpace.call, install, missing]
    rfl
  | attach executor => rw [CodeSpace.call, attach, missing]
  | invalidate h =>
    rw [CodeSpace.call, invalidate, missing]
    rfl
  | _ => rfl

end

/-- The executor that a cache gives to the code installed in it. -/
def executor? (space : CodeSpace) (place : Nat) : Option Executor :=
  space.caches[place]?.bind (·.executor)

variable (space : CodeSpace) (place : Nat) (call : CacheCall)

@[simp] theorem length_caches_call :
    (space.call place call).2.caches.length = space.caches.length := by
  cases found : space.caches[place]? with
  | none => rw [call_of_missing found]
  | some cache =>
    rw [call_of_found found]
    exact List.length_set

/-- A cache takes an executor from the calls at its own place only. -/
theorem executor?_call {p : Nat} (within : p < space.caches.length) :
    (space.call place call).2.executor? p =
      (space.executor? p).or (if place = p then call.executor? else none) := by
  cases found : space.caches[place]? with
  | none =>
    have differs : place ≠ p := by
      rintro rfl
      exact absurd within (Nat.not_lt.mpr (List.getElem?_eq_none_iff.mp found))
    rw [call_of_missing found, if_neg differs, Option.or_none]
  | some cache =>
    rw [call_of_found found, executor?, executor?]
    by_cases same : place = p
    · subst same
      rw [caches_put_self found, found, if_pos rfl]
      exact CacheState.executor_call ⟨cache, space.codes⟩ call
    · rw [caches_put_of_ne _ same, if_neg same, Option.or_none]

/-- Code ends by its invalidation through any cache. -/
theorem getElem?_codes_call {h : Handle} {installation : Installation}
    (stored : space.codes[h]? = some installation) :
    (space.call place call).2.codes[h]? = some (installation.endedIf
      (decide (place < space.caches.length) && call.invalidates h)) := by
  cases found : space.caches[place]? with
  | none =>
    have outside : ¬ place < space.caches.length :=
      Nat.not_lt.mpr (List.getElem?_eq_none_iff.mp found)
    rw [call_of_missing found, decide_eq_false outside, Bool.false_and]
    exact stored
  | some cache =>
    obtain ⟨within, -⟩ := List.getElem?_eq_some_iff.mp found
    rw [call_of_found found, decide_eq_true within, Bool.true_and]
    exact CacheState.getElem?_codes_call_eq ⟨cache, space.codes⟩ call stored

/-! ### What the calls of a run do -/

@[simp] theorem length_caches_after (calls : List (Nat × CacheCall)) :
    (space.after calls).caches.length = space.caches.length := by
  induction calls generalizing space with
  | nil => rfl
  | cons call calls ih => exact (ih _).trans (space.length_caches_call call.1 call.2)

/-- The first executor that the calls of a run attach to a cache. -/
def firstExecutor (place : Nat) (calls : List (Nat × CacheCall)) : Option Executor :=
  calls.findSome? fun call => if call.1 = place then call.2.executor? else none

/-- Whether the calls of a run invalidate code, over that many caches. -/
def endedBy (caches : Nat) (h : Handle) (calls : List (Nat × CacheCall)) : Bool :=
  calls.any fun call => decide (call.1 < caches) && call.2.invalidates h

/-- The executor of a cache is the first one that was ever attached to it. -/
theorem executor?_after {p : Nat} (within : p < space.caches.length)
    (calls : List (Nat × CacheCall)) :
    (space.after calls).executor? p = (space.executor? p).or (firstExecutor p calls) := by
  induction calls generalizing space with
  | nil => exact (Option.or_none ..).symm
  | cons call calls ih =>
    have within' : p < (space.call call.1 call.2).2.caches.length := by
      rw [length_caches_call]
      exact within
    have first : firstExecutor p (call :: calls) =
        (if call.1 = p then call.2.executor? else none).or (firstExecutor p calls) := by
      rw [firstExecutor, List.findSome?_cons]
      split
      · rename_i taken
        rw [taken]
        rfl
      · rename_i untaken
        rw [untaken]
        rfl
    rw [first, ← Option.or_assoc, ← space.executor?_call call.1 call.2 within]
    exact ih _ within'

/-- What a run leaves of what is stored. -/
theorem getElem?_codes_after {h : Handle} {installation : Installation}
    (stored : space.codes[h]? = some installation) (calls : List (Nat × CacheCall)) :
    (space.after calls).codes[h]? =
      some (installation.endedIf (endedBy space.caches.length h calls)) := by
  induction calls generalizing space installation with
  | nil => exact stored
  | cons call calls ih =>
    have rest := ih _ (space.getElem?_codes_call call.1 call.2 stored)
    rw [length_caches_call, Installation.endedIf_endedIf] at rest
    exact rest

theorem endedBy_iff {caches : Nat} {h : Handle} {calls : List (Nat × CacheCall)} :
    endedBy caches h calls = true ↔ ∃ place < caches, (place, .invalidate h) ∈ calls := by
  rw [endedBy, List.any_eq_true]
  constructor
  · rintro ⟨⟨place, call⟩, mem, ends⟩
    obtain ⟨within, ends⟩ := Bool.and_eq_true_iff.mp ends
    rw [CacheCall.invalidates_iff] at ends
    subst ends
    exact ⟨place, of_decide_eq_true within, mem⟩
  · rintro ⟨place, within, mem⟩
    exact ⟨_, mem, Bool.and_eq_true_iff.mpr
      ⟨decide_eq_true within, CacheCall.invalidates_iff.mpr rfl⟩⟩

theorem endedBy_eq_false_iff {caches : Nat} {h : Handle} {calls : List (Nat × CacheCall)} :
    endedBy caches h calls = false ↔ ∀ place < caches, (place, .invalidate h) ∉ calls := by
  rw [Bool.eq_false_iff, Ne, endedBy_iff]
  constructor
  · intro live place within mem
    exact live ⟨place, within, mem⟩
  · rintro kept ⟨place, within, mem⟩
    exact kept place within mem

theorem firstExecutor_eq_none_iff {place : Nat} {calls : List (Nat × CacheCall)} :
    firstExecutor place calls = none ↔ ∀ executor, (place, .attach executor) ∉ calls := by
  rw [firstExecutor, List.findSome?_eq_none_iff]
  constructor
  · intro untaken executor mem
    have offered := untaken _ mem
    rw [if_pos rfl] at offered
    cases offered
  · rintro absent ⟨p, call⟩ mem
    dsimp only
    split
    · rename_i same
      subst same
      cases offered : call.executor? with
      | none => rfl
      | some executor =>
        rw [CacheCall.executor?_eq_some_iff] at offered
        subst offered
        exact absurd mem (absent executor)
    · rfl

/-- The executor of the first call that attaches one. -/
theorem firstExecutor_append {place : Nat} {first more : List (Nat × CacheCall)}
    {executor : Executor} (untaken : ∀ other, (place, .attach other) ∉ first) :
    firstExecutor place (first ++ (place, .attach executor) :: more) = some executor := by
  have before := firstExecutor_eq_none_iff.mpr untaken
  unfold firstExecutor at before ⊢
  rw [List.findSome?_append, before, List.findSome?_cons, if_pos rfl]
  rfl

/-! ### Execution along a run -/

theorem length_caches_start (caches : List (Target × Option Decoder)) :
    (start caches).caches.length = caches.length :=
  List.length_map ..

/-- From new caches on, the calls alone decide which executor a cache has. -/
theorem executor?_after_start {caches : List (Target × Option Decoder)} {place : Nat}
    (within : place < caches.length) (calls : List (Nat × CacheCall)) :
    ((start caches).after calls).executor? place = firstExecutor place calls := by
  have new : (start caches).executor? place = none := by
    rw [executor?, start, List.getElem?_map]
    cases caches[place]? with
    | none => rfl
    | some cache => rfl
  rw [← length_caches_start] at within
  rw [executor?_after _ within, new, Option.none_or]

/-- What an installation stores: valid code of the artifact, with the executor that its cache has.
-/
theorem getElem?_codes_install {space : CodeSpace} {place : Nat} {artifact : Artifact} {h : Handle}
    (installed : (space.call place (.install artifact)).1 = some (.installed h)) :
    ∃ code : InstalledCode, code.valid = true ∧ code.artifact = artifact ∧
      place < space.caches.length ∧
      (space.call place (.install artifact)).2.codes[h]? = some ⟨code, space.executor? place⟩ := by
  cases found : space.caches[place]? with
  | none =>
    rw [CodeSpace.call, install, found] at installed
    cases installed
  | some cache =>
    obtain ⟨within, -⟩ := List.getElem?_eq_some_iff.mp found
    rw [call_of_found found] at installed ⊢
    cases installed
    refine ⟨cache.nextCode artifact, rfl, rfl, within, ?_⟩
    rw [executor?, found]
    exact List.getElem?_concat_length

/-- What is stored under a handle at each later point of a run: the code of the artifact,
invalidated if a call did so, with the first executor of its cache if there was one at the
installation. -/
theorem getElem?_codes_of_installed {caches : List (Target × Option Decoder)}
    {before between : List (Nat × CacheCall)} {place : Nat} {artifact : Artifact} {h : Handle}
    (installed : (((start caches).after before).call place (.install artifact)).1 =
      some (.installed h)) :
    ∃ code : InstalledCode, code.valid = true ∧ code.artifact = artifact ∧
      ((start caches).after (before ++ (place, .install artifact) :: between)).codes[h]? =
        some (Installation.endedIf ⟨code, firstExecutor place before⟩
          (endedBy caches.length h between)) := by
  obtain ⟨code, valid, own, within, stored⟩ := getElem?_codes_install installed
  rw [length_caches_after, length_caches_start] at within
  rw [executor?_after_start within] at stored
  refine ⟨code, valid, own, ?_⟩
  have last := getElem?_codes_after _ stored between
  rw [length_caches_call, length_caches_after, length_caches_start] at last
  rw [after_append]
  exact last

/-- A call that attaches an executor is told whether it is the first one of its cache; if it is not,
it changes nothing. -/
theorem call_attach {space : CodeSpace} {place : Nat} (within : place < space.caches.length)
    (executor : Executor) :
    (space.call place (.attach executor)).1 =
        some (.attached (space.executor? place).isNone) ∧
      ((space.executor? place).isSome →
        (space.call place (.attach executor)).2 = space) := by
  obtain ⟨cache, found⟩ : ∃ cache, space.caches[place]? = some cache :=
    ⟨_, List.getElem?_eq_getElem within⟩
  have own : space.executor? place = cache.executor := by
    rw [executor?, found]
    rfl
  rw [own, CodeSpace.call, attach_of_found found, CodeCache.attach]
  cases cache.executor with
  | none => exact ⟨rfl, fun attached => Bool.noConfusion attached⟩
  | some first => exact ⟨rfl, fun _ => put_self found⟩

/-- What the execution of code comes to at each point of a run of several caches. If a call
invalidated the code since its installation, through whichever cache, the answer is an error, with
an executor or without. Otherwise the code has the executor that was attached first to its cache, if
that was before its installation; if there was none by then, it is never executable. A call that
attaches an executor is told whether it is the first one of its cache, and changes nothing if it is
not. -/
theorem execute_along_run (caches : List (Target × Option Decoder))
    (calls : List (Nat × CacheCall)) :
    let answers := (start caches).answers calls
    (∀ before place artifact between, let earlier := before ++ (place, .install artifact) :: between
      ∀ p h args rest, calls = earlier ++ (p, .execute h args) :: rest →
        answers[before.length]? = some (some (.installed h)) →
        ∃ installation outcome,
          ((start caches).after earlier).codes[h]? = some installation ∧
          installation.code.artifact = artifact ∧
          answers[earlier.length]? = some (some (.executed (some outcome))) ∧
          ((∃ q < caches.length, (q, .invalidate h) ∈ between) →
            outcome = .error (.error (.invalidInstalledCode artifact.name))) ∧
          ((∀ q < caches.length, (q, .invalidate h) ∉ between) →
            ((∀ executor, (place, .attach executor) ∉ before) →
              outcome = .error (.error (.notExecutable artifact.name))) ∧
            ∀ front executor back, before = front ++ (place, .attach executor) :: back →
              (∀ other, (place, .attach other) ∉ front) →
              installation.code.valid = true ∧ outcome = executor installation.code args)) ∧
    ∀ before place executor rest, calls = before ++ (place, .attach executor) :: rest →
      place < caches.length →
      ∃ first, answers[before.length]? = some (some (.attached first)) ∧
        (first = true ↔ ∀ other, (place, .attach other) ∉ before) ∧
        (first = false → (start caches).after (before ++ [(place, .attach executor)]) =
          (start caches).after before) := by
  intro answers
  constructor
  · intro before place artifact between earlier p h args rest split installed
    have given : (((start caches).after before).call place (.install artifact)).1 =
        some (.installed h) := by
      simp only [answers, split, earlier, List.append_assoc, List.cons_append] at installed
      rw [getElem?_answers] at installed
      exact Option.some.inj installed
    obtain ⟨code, valid, own, stored⟩ := getElem?_codes_of_installed given
    have executed : answers[earlier.length]? = some (some (.executed
        (((start caches).after earlier).codes.execute h args))) := by
      simp only [answers, split]
      exact getElem?_answers ..
    rw [Codes.execute, stored, Option.map_some] at executed
    have name : code.name = artifact.name := congrArg Artifact.name own
    refine ⟨_, _, stored, (Installation.artifact_endedIf ..).trans own, executed, ?_, ?_⟩
    · intro ended
      rw [endedBy_iff.mpr ended, Installation.execute_endedIf_true, name]
    · intro kept
      rw [endedBy_eq_false_iff.mpr kept, Installation.endedIf_false]
      constructor
      · intro absent
        rw [firstExecutor_eq_none_iff.mpr absent, Installation.execute_of_no_executor args valid,
          name]
      · rintro front executor back rfl untaken
        rw [firstExecutor_append untaken]
        exact ⟨valid, Installation.execute_of_executor args valid executor⟩
  · intro before place executor rest split within
    have room : place < ((start caches).after before).caches.length := by
      rw [length_caches_after, length_caches_start]
      exact within
    obtain ⟨answer, unchanged⟩ := call_attach room executor
    rw [executor?_after_start within] at answer unchanged
    refine ⟨(firstExecutor place before).isNone, ?_, ?_, ?_⟩
    · simp only [answers, split]
      rw [getElem?_answers, answer]
    · rw [Option.isNone_iff_eq_none, firstExecutor_eq_none_iff]
    · intro later
      rw [after_append]
      exact unchanged (by simpa using later)

/-- Two caches: the code of the first one is executed by the executor that came first, until it is
invalidated through the second one. The code of the second one came before its executor. -/
theorem execute_along_run_of_two :
    let caches := [(Target.ofArchitecture Amd64.architecture 16 true, none),
      (Target.ofArchitecture AArch64.architecture 16 true, none)]
    let echo : Executor := fun _ args => .ok (args.headD .void)
    let later : Executor := fun _ _ => .ok .null
    let answers := (start caches).answers
      [(0, .attach echo), (0, .install ⟨"first", [0xC3], 0, none⟩), (0, .attach later),
        (1, .install ⟨"second", [], 0, none⟩), (0, .execute 0 [.int 7]), (1, .attach later),
        (1, .execute 1 []), (1, .invalidate 0), (0, .execute 0 [.int 7])]
    answers[2]? = some (some (.attached false)) ∧
      answers[4]? = some (some (.executed (some (.ok (.int 7))))) ∧
      answers[6]? = some (some (.executed (some (.error (.error (.notExecutable "second")))))) ∧
      answers[8]? = some (some (.executed (some (.error
        (.error (.invalidInstalledCode "first")))))) := by
  intro caches echo later answers
  obtain ⟨executes, attaches⟩ := execute_along_run caches
    [(0, .attach echo), (0, .install ⟨"first", [0xC3], 0, none⟩), (0, .attach later),
      (1, .install ⟨"second", [], 0, none⟩), (0, .execute 0 [.int 7]), (1, .attach later),
      (1, .execute 1 []), (1, .invalidate 0), (0, .execute 0 [.int 7])]
  refine ⟨?_, ?_, ?_, ?_⟩
  · obtain ⟨first, answer, isFirst, -⟩ := attaches
      [(0, .attach echo), (0, .install ⟨"first", [0xC3], 0, none⟩)] 0 later _ rfl (by decide)
    have taken : first = false := by
      rw [Bool.eq_false_iff, Ne, isFirst]
      exact fun absent => absent echo (by simp)
    rw [← taken]
    exact answer
  · obtain ⟨installation, outcome, -, -, answer, -, kept⟩ := executes
      [(0, .attach echo)] 0 ⟨"first", [0xC3], 0, none⟩
      [(0, .attach later), (1, .install ⟨"second", [], 0, none⟩)] 0 0 [.int 7] _ rfl rfl
    obtain ⟨-, executor⟩ := kept (by simp)
    obtain ⟨-, result⟩ := executor [] echo [] rfl (by simp)
    rw [result] at answer
    exact answer
  · obtain ⟨installation, outcome, -, -, answer, -, kept⟩ := executes
      [(0, .attach echo), (0, .install ⟨"first", [0xC3], 0, none⟩), (0, .attach later)] 1
      ⟨"second", [], 0, none⟩ [(0, .execute 0 [.int 7]), (1, .attach later)] 1 1 [] _ rfl rfl
    obtain ⟨missing, -⟩ := kept (by simp)
    rw [missing (by simp)] at answer
    exact answer
  · obtain ⟨installation, outcome, -, -, answer, ended, -⟩ := executes
      [(0, .attach echo)] 0 ⟨"first", [0xC3], 0, none⟩
      [(0, .attach later), (1, .install ⟨"second", [], 0, none⟩), (0, .execute 0 [.int 7]),
        (1, .attach later), (1, .execute 1 []), (1, .invalidate 0)] 0 0 [.int 7] _ rfl rfl
    rw [ended ⟨1, by decide, by simp⟩] at answer
    exact answer

end CodeSpace
end JitBridge
