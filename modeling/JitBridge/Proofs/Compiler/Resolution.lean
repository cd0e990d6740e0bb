import JitBridge.Proofs.Session.Startup

/-!
Resolution of compiler factories, over any number of calls on one resolver. `Resolution.Settles`
says what a call comes to on its own: the stub if no name is asked for, or else the first candidate
of that name, or an error.

A resolver remembers nothing of the calls that fail (`Resolver.after_of_fails`) and nothing but the
first selection after it (`Resolver.after_of_firstSelects`). `Resolver.resolves_until_first_success`
says what that makes of the next call.
-/

namespace JitBridge

/-- What a resolver is asked: the requested name, and the candidates. -/
structure Resolution (W : Type) where
  requested : Option String
  candidates : List (CompilerFactory W)

variable {W : Type}

namespace Resolution

/-- What a resolution comes to on its own. -/
inductive Settles (call : Resolution W) : Except Fault (Selection W) → Prop
  | stub (unset : call.requested = none) : Settles call (.ok ⟨none, .stub⟩)
  | first {name : String} {place : Nat} {factory : CompilerFactory W}
      (requested : call.requested = some name)
      (first : IsFirst (·.name == name) call.candidates place factory) :
      Settles call (.ok ⟨some place, factory⟩)
  | missing {name : String} (requested : call.requested = some name)
      (none : ∀ factory ∈ call.candidates, factory.name ≠ name) :
      Settles call (.error (.error (.compilerNotFound name)))

/-- A name is asked for that no candidate has. -/
def Fails (call : Resolution W) : Prop :=
  ∃ fault, call.Settles (.error fault)

/-- The selection of the first of the calls that does not fail. -/
def FirstSelects (calls : List (Resolution W)) (selection : Selection W) : Prop :=
  ∃ failed call later, calls = failed ++ call :: later ∧ (∀ other ∈ failed, other.Fails) ∧
    call.Settles (.ok selection)

end Resolution

/-- What a selection does to the host program: a candidate is told that it is chosen, the stub is
not. -/
def Selection.announce (selection : Selection W) (world : W) : W :=
  match selection.place with
  | some _ => selection.factory.onSelection world
  | none => world

namespace Selection

variable {name : String} {candidates : List (CompilerFactory W)}

theorem find?_of_isFirst {place : Nat} {factory : CompilerFactory W}
    (first : IsFirst (·.name == name) candidates place factory) :
    find? name candidates = some ⟨some place, factory⟩ := by
  rw [find?, find?_zipIdx_eq_some_iff.mpr first]
  rfl

theorem find?_of_none (none : ∀ factory ∈ candidates, factory.name ≠ name) :
    find? name candidates = Option.none := by
  have skipped : ∀ factory ∈ candidates, (factory.name == name) = false :=
    fun factory mem => beq_eq_false_iff_ne.mpr (none factory mem)
  rw [find?, find?_zipIdx_eq_none_iff.mpr skipped]
  rfl

end Selection

namespace Resolution

variable {call : Resolution W} {outcome : Except Fault (Selection W)}

/-- Each resolution comes to something. -/
theorem exists_settles (call : Resolution W) : ∃ outcome, call.Settles outcome := by
  cases requested : call.requested with
  | none => exact ⟨_, .stub requested⟩
  | some name =>
    rcases none_or_isFirst (·.name == name) call.candidates with none | ⟨place, factory, first⟩
    · exact ⟨_, .missing requested fun factory mem => beq_eq_false_iff_ne.mp (none factory mem)⟩
    · exact ⟨_, .first requested first⟩

/-- The host program after a resolution. -/
def announced (outcome : Except Fault (Selection W)) (world : W) : W :=
  match outcome with
  | .ok selection => selection.announce world
  | .error _ => world

/-- A selection ends as the resolution settles, and tells the candidate that it chooses. -/
theorem Settles.answer_select (settles : call.Settles outcome) (world : W) :
    ((Selection.select call.requested call.candidates).runFrom world).answer =
      (outcome, announced outcome world) := by
  cases settles with
  | stub unset =>
    rw [unset]
    rfl
  | first requested first =>
    rw [requested, Selection.select, Selection.find?_of_isFirst first]
    rfl
  | missing requested none =>
    rw [requested, Selection.select, Selection.find?_of_none none]
    rfl

/-- A call fails, or it selects. -/
theorem fails_or_selects (call : Resolution W) :
    call.Fails ∨ ∃ selection, call.Settles (.ok selection) := by
  obtain ⟨fault | selection, settles⟩ := call.exists_settles
  · exact .inl ⟨fault, settles⟩
  · exact .inr ⟨selection, settles⟩

/-- All calls fail, or one of them is the first that selects. -/
theorem fail_or_firstSelects (calls : List (Resolution W)) :
    (∀ call ∈ calls, call.Fails) ∨ ∃ selection, FirstSelects calls selection := by
  induction calls with
  | nil => exact .inl nofun
  | cons call calls ih =>
    rcases call.fails_or_selects with fails | ⟨selection, settles⟩
    · rcases ih with rest | ⟨selection, failed, first, later, rfl, before, settles⟩
      · exact .inl (List.forall_mem_cons.mpr ⟨fails, rest⟩)
      · exact .inr ⟨selection, call :: failed, first, later, rfl,
          List.forall_mem_cons.mpr ⟨fails, before⟩, settles⟩
    · exact .inr ⟨selection, [], call, calls, rfl, nofun, settles⟩

end Resolution

namespace Resolver

/-! ### Calls on a resolver -/

/-- A resolver and the host program of its candidates. -/
structure State (W : Type) where
  resolver : Resolver W := {}
  world : W

/-- One call: how it ended, and what it leaves. A call that fails gives no new resolver. -/
def call (s : State W) (resolution : Resolution W) : Except Fault (Selection W) × State W :=
  match ((s.resolver.getOrResolve resolution.requested resolution.candidates).runFrom
      s.world).answer with
  | (.ok (selection, resolver), world) => (.ok selection, ⟨resolver, world⟩)
  | (.error fault, world) => (.error fault, { s with world })

/-- What the calls of a run leave. -/
def after (s : State W) : List (Resolution W) → State W
  | [] => s
  | resolution :: calls => after (call s resolution).2 calls

variable {s : State W} {resolution : Resolution W}

theorem after_append (s : State W) (calls more : List (Resolution W)) :
    after s (calls ++ more) = after (after s calls) more := by
  induction calls generalizing s with
  | nil => rfl
  | cons resolution calls ih => exact ih (call s resolution).2

/-- A remembered selection is the answer whatever is asked, and nothing else happens. -/
theorem call_of_selected {selection : Selection W}
    (selected : s.resolver.selected = some selection) :
    call s resolution = (.ok selection, s) := by
  simp only [call, getOrResolve, selected]
  rfl

/-- Where nothing is remembered, a call ends as it does on its own. Only a selection is
remembered. -/
theorem call_of_unselected {outcome : Except Fault (Selection W)} {world : W}
    (settles : resolution.Settles outcome) :
    call ⟨⟨none⟩, world⟩ resolution =
      (outcome, ⟨⟨outcome.toOption⟩, Resolution.announced outcome world⟩) := by
  have answer := settles.answer_select world
  simp only [call, getOrResolve]
  cases outcome with
  | error fault =>
    rw [Action.answer_bind_of_error answer]
    rfl
  | ok selection =>
    rw [Action.answer_bind_of_ok answer]
    rfl

/-! ### Runs -/

/-- As long as all calls fail, nothing is remembered and nothing is told. -/
theorem after_of_fails {calls : List (Resolution W)} (fails : ∀ call ∈ calls, call.Fails)
    (world : W) : after { world } calls = { world } := by
  induction calls with
  | nil => rfl
  | cons resolution calls ih =>
    obtain ⟨⟨fault, settles⟩, later⟩ := List.forall_mem_cons.mp fails
    rw [after, call_of_unselected settles]
    exact ih later

/-- After a selection no call changes anything. -/
theorem after_of_selected {selection : Selection W}
    (selected : s.resolver.selected = some selection) (calls : List (Resolution W)) :
    after s calls = s := by
  induction calls with
  | nil => rfl
  | cons resolution calls ih =>
    rw [after, call_of_selected selected]
    exact ih

/-- The first selection is remembered and its candidate told, once. -/
theorem after_of_firstSelects {calls : List (Resolution W)} {selection : Selection W}
    (first : Resolution.FirstSelects calls selection) (world : W) :
    after { world } calls = ⟨⟨some selection⟩, selection.announce world⟩ := by
  obtain ⟨failed, resolution, later, rfl, fails, settles⟩ := first
  rw [after_append, after_of_fails fails, after, call_of_unselected settles]
  exact after_of_selected rfl later

/-- In a run on a new resolver, nothing is remembered exactly until the first call that does not
fail. Up to that call each ends as it does on its own, and one that fails leaves no trace. From then
on every call answers with the first selection, whatever it asks for. The chosen candidate is told
so by that first call and by no other; the stub is not told. -/
theorem resolves_until_first_success (world : W) (before : List (Resolution W))
    (next : Resolution W) :
    let s := after { world } before
    let ended := call s next
    (s.resolver.selected = none ↔ ∀ earlier ∈ before, earlier.Fails) ∧
      ((∀ earlier ∈ before, earlier.Fails) →
        s = { world } ∧
        next.Settles ended.1 ∧
        ended.1 =
          ((Selection.select next.requested next.candidates).runFrom world).answer.1 ∧
        ended.2.resolver.selected = ended.1.toOption ∧
        ended.2.world = Resolution.announced ended.1 world) ∧
      ∀ selection, Resolution.FirstSelects before selection →
        s = ⟨⟨some selection⟩, selection.announce world⟩ ∧ ended = (.ok selection, s) := by
  intro s ended
  refine ⟨⟨?_, fun fails => congrArg (·.resolver.selected) (after_of_fails fails world)⟩, ?_, ?_⟩
  · intro unselected
    rcases Resolution.fail_or_firstSelects before with fails | ⟨selection, first⟩
    · exact fails
    · have selected := congrArg (·.resolver.selected) (after_of_firstSelects first world)
      cases unselected.symm.trans selected
  · intro fails
    obtain ⟨outcome, settles⟩ := next.exists_settles
    have start : s = { world } := after_of_fails fails world
    have told : ended = _ := start ▸ call_of_unselected settles
    rw [told]
    exact ⟨start, settles, (congrArg Prod.fst (settles.answer_select world)).symm, rfl, rfl⟩
  · intro selection first
    have start : s = ⟨⟨some selection⟩, selection.announce world⟩ :=
      after_of_firstSelects first world
    exact ⟨start, call_of_selected (congrArg (·.resolver.selected) start)⟩

/-- A name that no candidate has, then a name that two candidates have, then no name: the first of
the two is told once and stays the answer. -/
theorem resolves_until_first_success_of_two_candidates :
    let factory (name note : String) : CompilerFactory (List String) :=
      { name, onSelection := (note :: ·), create := fun _ => pure Compiler.stub }
    let missing : Resolution (List String) := ⟨some "graal", [factory "Graal" "other"]⟩
    let found : Resolution (List String) :=
      ⟨some "graal", [factory "c1" "other", factory "graal" "first", factory "graal" "second"]⟩
    let chosen : Selection (List String) := ⟨some 1, factory "graal" "first"⟩
    let s := after { world := [] } [missing, found]
    Resolution.FirstSelects [missing, found] chosen ∧
      s.resolver.selected = some chosen ∧ s.world = ["first"] ∧
      call s ⟨none, []⟩ = (.ok chosen, s) := by
  intro factory missing found chosen s
  have first : Resolution.FirstSelects [missing, found] chosen :=
    ⟨[missing], found, [], rfl, by simpa using ⟨_, .missing rfl (by simp [missing, factory])⟩,
      .first rfl ⟨rfl, rfl, by simp [found, factory]⟩⟩
  obtain ⟨-, -, later⟩ := resolves_until_first_success [] [missing, found] ⟨none, []⟩
  obtain ⟨left, answered⟩ := later chosen first
  exact ⟨first, congrArg (·.resolver.selected) left, congrArg State.world left, answered⟩

end Resolver
end JitBridge
