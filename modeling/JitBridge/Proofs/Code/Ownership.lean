import JitBridge.Architecture.AArch64
import JitBridge.Architecture.Amd64
import JitBridge.Code.Space
import JitBridge.Proofs.Code.Tracking
import Mathlib.Logic.Function.Basic

/-!
Several caches over one list of code, and which of them gave out which handle. As long as every
cache is asked to invalidate its own code only, each of them agrees with its handles on which code
is live, whatever happens in the others (`CodeSpace.Orderly.tracks`).

A cache does not know who gave out a handle, and every cache numbers its code from 1.
`CodeSpace.invalidate_foreign_harmless_iff` says what follows for code that is invalidated through
another cache: that cache forgets its own code of the same number, and the cache of the code goes on
finding what is no longer valid. Nothing is disturbed exactly if there was neither.
-/

namespace JitBridge

namespace CodeCache

variable {cache : CodeCache} {codes : Codes} {own : List Handle}

/-- A cache agrees with its handles on account of their code alone. -/
theorem Tracks.congr (tracks : cache.Tracks codes own) {other : Codes}
    (same : ∀ h ∈ own, other[h]? = codes[h]?) : cache.Tracks other own where
  distinct := tracks.distinct
  numbered := by
    intro k h found
    rw [same h (List.mem_of_getElem? found)]
    exact tracks.numbered k h found
  nextId := tracks.nextId
  found_iff := by
    intro id h
    rw [tracks.found_iff]
    refine and_congr_right fun mem => ?_
    rw [same h mem]
  count := by
    rw [tracks.count]
    refine List.countP_congr fun h mem => ?_
    rw [Codes.isValid, Codes.isValid, same h mem]

/-- The cache finds valid code only, and counts the valid handles that it gave out. -/
structure Consistent (cache : CodeCache) (codes : Codes) (own : List Handle) : Prop where
  lookup : ∀ (id : UInt64) (h : Handle), cache.lookup id = some h → Codes.isValid codes h = true
  count : cache.installedCount = own.countP (Codes.isValid codes)

theorem Tracks.consistent (tracks : cache.Tracks codes own) : cache.Consistent codes own where
  lookup := by
    intro id h found
    obtain ⟨-, installation, stored, -, valid⟩ := (tracks.found_iff id h).mp found
    rw [Codes.isValid, stored]
    exact valid
  count := tracks.count

/-- All code that was live is still found, and counted. -/
structure KeepsLive (before after : CodeCache) : Prop where
  lookup : ∀ (id : UInt64) (h : Handle), before.lookup id = some h → after.lookup id = some h
  count : after.installedCount = before.installedCount

theorem installedCount_erase (cache : CodeCache) (id : UInt64) :
    installedCount { cache with live := cache.live.erase id } +
      (if (cache.lookup id).isSome then 1 else 0) = cache.installedCount :=
  cache.live.size_erase id

/-- Forgetting a number does no harm if there is no live code of that number. -/
theorem keepsLive_erase_iff (cache : CodeCache) (id : UInt64) :
    cache.KeepsLive { cache with live := cache.live.erase id } ↔ cache.lookup id = none := by
  constructor
  · intro keeps
    rw [Option.eq_none_iff_forall_ne_some]
    intro h found
    have kept := keeps.lookup id h found
    rw [lookup_erase, if_pos rfl] at kept
    cases kept
  · intro missing
    refine ⟨fun other h found => ?_, ?_⟩
    · have differs : other ≠ id := by
        rintro rfl
        rw [missing] at found
        cases found
      rw [lookup_erase, if_neg differs, found]
    · have erased := cache.installedCount_erase id
      rw [missing] at erased
      exact erased

end CodeCache

namespace CodeSpace

variable {space : CodeSpace} {given : Nat → List Handle} {place : Nat} {cache : CodeCache}

/-! ### One operation -/

theorem caches_put_self (found : space.caches[place]? = some cache) (changed : CodeCache)
    (codes : Codes) : (space.put place changed codes).caches[place]? = some changed := by
  obtain ⟨within, -⟩ := List.getElem?_eq_some_iff.mp found
  exact List.getElem?_set_self within

/-- The caches at other places stay as they are. -/
theorem caches_put_of_ne (space : CodeSpace) {place other : Nat} (differs : place ≠ other)
    (changed : CodeCache) (codes : Codes) :
    (space.put place changed codes).caches[other]? = space.caches[other]? :=
  List.getElem?_set_ne differs

theorem answer_install (found : space.caches[place]? = some cache) (artifact : Artifact) :
    (space.install place artifact).answer =
      (some space.codes.length,
        space.put place (cache.afterInstall artifact space.codes.length)
          (space.codes ++ [⟨cache.nextCode artifact, cache.executor⟩])) := by
  rw [install, found]
  rfl

theorem attach_of_found (found : space.caches[place]? = some cache) (executor : Executor) :
    space.attach place executor =
      ((cache.attach executor).1, space.put place (cache.attach executor).2 space.codes) := by
  rw [attach, found]

theorem answer_invalidate (found : space.caches[place]? = some cache) {h : Handle}
    {installation : Installation} (stored : space.codes[h]? = some installation) :
    (space.invalidate place h).answer =
      (installation.code.valid,
        space.put place { cache with live := cache.live.erase installation.code.id }
          (space.codes.set h { installation with code := installation.code.invalidate })) := by
  simp only [invalidate, found, Emit.answer_bind, CodeCache.answer_invalidate cache stored,
    Emit.answer_pure]

/-! ### Reachable states -/

/-- New caches, before anything is installed. -/
def start (caches : List (Target × Option Decoder)) : CodeSpace where
  caches := caches.map fun (target, decoder) => { target, decoder }

/-- The states that caches reach from the start by any operations, with the handles that each cache
gave out. The cache through which code is invalidated may be any. -/
inductive Reachable : CodeSpace → (Nat → List Handle) → Prop
  | start (caches : List (Target × Option Decoder)) : Reachable (start caches) fun _ => []
  | install {space : CodeSpace} {given : Nat → List Handle} {place : Nat} {cache : CodeCache}
      (reachable : Reachable space given) (found : space.caches[place]? = some cache)
      (artifact : Artifact) :
      Reachable (space.install place artifact).answer.2
        (Function.update given place (given place ++ [space.codes.length]))
  | attach {space : CodeSpace} {given : Nat → List Handle} {place : Nat} {cache : CodeCache}
      (reachable : Reachable space given) (found : space.caches[place]? = some cache)
      (executor : Executor) : Reachable (space.attach place executor).2 given
  | invalidate {space : CodeSpace} {given : Nat → List Handle} {place : Nat} {cache : CodeCache}
      (reachable : Reachable space given) (found : space.caches[place]? = some cache)
      {h : Handle} {installation : Installation} (stored : space.codes[h]? = some installation) :
      Reachable (space.invalidate place h).answer.2 given

/-- The states that caches reach if each one invalidates only code of its own, and none runs out of
numbers. -/
inductive Orderly : CodeSpace → (Nat → List Handle) → Prop
  | start (caches : List (Target × Option Decoder)) : Orderly (start caches) fun _ => []
  | install {space : CodeSpace} {given : Nat → List Handle} {place : Nat} {cache : CodeCache}
      (orderly : Orderly space given) (found : space.caches[place]? = some cache)
      (artifact : Artifact) (room : (given place).length + 2 < UInt64.size) :
      Orderly (space.install place artifact).answer.2
        (Function.update given place (given place ++ [space.codes.length]))
  | attach {space : CodeSpace} {given : Nat → List Handle} {place : Nat} {cache : CodeCache}
      (orderly : Orderly space given) (found : space.caches[place]? = some cache)
      (executor : Executor) : Orderly (space.attach place executor).2 given
  | invalidate {space : CodeSpace} {given : Nat → List Handle} {place : Nat} {cache : CodeCache}
      (orderly : Orderly space given) (found : space.caches[place]? = some cache)
      {h : Handle} (own : h ∈ given place) {installation : Installation}
      (stored : space.codes[h]? = some installation) :
      Orderly (space.invalidate place h).answer.2 given

theorem Orderly.reachable (orderly : Orderly space given) : Reachable space given := by
  induction orderly with
  | start caches => exact .start caches
  | install _ found artifact _ reachable => exact .install reachable found artifact
  | attach _ found executor reachable => exact .attach reachable found executor
  | invalidate _ found _ stored reachable => exact .invalidate reachable found stored

namespace Reachable

/-- The handles given out are places of stored code. -/
theorem lt_length (reachable : Reachable space given) {h : Handle} (mem : h ∈ given place) :
    h < space.codes.length := by
  induction reachable generalizing place with
  | start caches => cases mem
  | @install space given p cache _ found artifact ih =>
    rw [answer_install found]
    show h < (space.codes ++ _).length
    rw [List.length_append, List.length_singleton]
    by_cases same : place = p
    · subst same
      rw [Function.update_self] at mem
      rcases List.mem_append.mp mem with old | new
      · exact Nat.lt_succ_of_lt (ih old)
      · rw [List.mem_singleton.mp new]
        exact Nat.lt_succ_self _
    · rw [Function.update_of_ne same] at mem
      exact Nat.lt_succ_of_lt (ih mem)
  | attach _ found executor ih =>
    rw [attach_of_found found]
    exact ih mem
  | @invalidate space given p cache _ found g installation stored ih =>
    rw [answer_invalidate found stored]
    show h < (space.codes.set g _).length
    rw [List.length_set]
    exact ih mem

/-- No handle is given out by two caches. -/
theorem eq_of_mem (reachable : Reachable space given) {p q : Nat} {h : Handle} (memP : h ∈ given p)
    (memQ : h ∈ given q) : p = q := by
  induction reachable generalizing p q with
  | start caches => cases memP
  | @install space given r cache before found artifact ih =>
    have fresh : ∀ {s : Nat}, space.codes.length ∉ given s :=
      fun mem => Nat.lt_irrefl _ (before.lt_length mem)
    have inversion : ∀ s : Nat, h ∈ Function.update given r (given r ++ [space.codes.length]) s →
        h ∈ given s ∨ (s = r ∧ h = space.codes.length) := by
      intro s mem
      by_cases same : s = r
      · subst same
        rw [Function.update_self] at mem
        exact (List.mem_append.mp mem).imp_right fun new => ⟨rfl, List.mem_singleton.mp new⟩
      · rw [Function.update_of_ne same] at mem
        exact .inl mem
    rcases inversion p memP with oldP | ⟨rfl, rfl⟩
    · rcases inversion q memQ with oldQ | ⟨rfl, rfl⟩
      · exact ih oldP oldQ
      · exact absurd oldP fresh
    · rcases inversion q memQ with oldQ | ⟨rfl, -⟩
      · exact absurd oldQ fresh
      · rfl
  | attach _ _ _ ih => exact ih memP memQ
  | invalidate _ _ _ ih => exact ih memP memQ

end Reachable

/-- Caches that invalidate only their own code agree with their handles on which code is live. -/
theorem Orderly.tracks (orderly : Orderly space given) (found : space.caches[place]? = some cache) :
    cache.Tracks space.codes (given place) := by
  induction orderly generalizing place cache with
  | start caches =>
    obtain ⟨⟨target, decoder⟩, -, rfl⟩ := Option.map_eq_some_iff.mp (List.getElem?_map ▸ found)
    exact .of_new target decoder []
  | @install space given p owner _ foundP artifact room ih =>
    rw [answer_install foundP] at found ⊢
    by_cases same : p = place
    · subst same
      rw [caches_put_self foundP] at found
      cases found
      rw [Function.update_self]
      exact (ih foundP).install artifact room
    · rw [caches_put_of_ne _ same] at found
      rw [Function.update_of_ne (Ne.symm same)]
      exact (ih found).congr fun h mem => (ih found).getElem?_append mem _
  | @attach space given p owner _ foundP executor ih =>
    rw [attach_of_found foundP] at found ⊢
    by_cases same : p = place
    · subst same
      rw [caches_put_self foundP] at found
      cases found
      exact (ih foundP).attach executor
    · rw [caches_put_of_ne _ same] at found
      exact ih found
  | @invalidate space given p owner before foundP h own installation stored ih =>
    rw [answer_invalidate foundP stored] at found ⊢
    by_cases same : p = place
    · subst same
      rw [caches_put_self foundP] at found
      cases found
      exact (ih foundP).invalidate own stored
    · rw [caches_put_of_ne _ same] at found
      refine (ih found).congr fun g mem => List.getElem?_set_ne ?_
      rintro rfl
      exact same (before.reachable.eq_of_mem own mem)

/-! ### Invalidating code of another cache -/

theorem isValid_set_self {codes : Codes} {h : Handle} {installation : Installation}
    (stored : codes[h]? = some installation) :
    Codes.isValid (codes.set h { installation with code := installation.code.invalidate }) h =
      false := by
  obtain ⟨within, -⟩ := List.getElem?_eq_some_iff.mp stored
  rw [Codes.isValid, List.getElem?_set_self within]
  exact installation.code.valid_invalidate

theorem isValid_set_of_ne {codes : Codes} {g h : Handle} (differs : h ≠ g)
    (changed : Installation) : Codes.isValid (codes.set h changed) g = Codes.isValid codes g := by
  rw [Codes.isValid, Codes.isValid, List.getElem?_set_ne differs]

/-- Invalidating valid code leaves fewer valid handles among those of its cache. -/
theorem countP_isValid_set_lt {codes : Codes} {own : List Handle} {h : Handle}
    {installation : Installation} (stored : codes[h]? = some installation) (mem : h ∈ own)
    (valid : Codes.isValid codes h = true) :
    own.countP (Codes.isValid
        (codes.set h { installation with code := installation.code.invalidate })) <
      own.countP (Codes.isValid codes) := by
  have ended := isValid_set_self stored
  have atMost : ∀ handles : List Handle, handles.countP (Codes.isValid
        (codes.set h { installation with code := installation.code.invalidate })) ≤
      handles.countP (Codes.isValid codes) := by
    refine fun handles => List.countP_mono_left fun g _ still => ?_
    have differs : h ≠ g := by
      rintro rfl
      rw [ended] at still
      cases still
    rwa [isValid_set_of_ne differs] at still
  obtain ⟨front, back, rfl⟩ := List.append_of_mem mem
  simp only [List.countP_append, List.countP_cons, ended, valid, Bool.false_eq_true, if_false,
    if_true]
  have inFront := atMost front
  have inBack := atMost back
  omega

/-- A cache that is not told of the end of its own code stays consistent only if the code was
invalid before. -/
theorem consistent_set_iff {codes : Codes} {own : List Handle} {h : Handle}
    {installation : Installation} (stored : codes[h]? = some installation) (mem : h ∈ own)
    (consistent : cache.Consistent codes own) :
    cache.Consistent (codes.set h { installation with code := installation.code.invalidate }) own ↔
      installation.code.valid = false := by
  have before : Codes.isValid codes h = installation.code.valid := by
    rw [Codes.isValid, stored]
    rfl
  constructor
  · intro after
    rw [Bool.eq_false_iff]
    intro valid
    have fewer := countP_isValid_set_lt stored mem (before.trans valid)
    rw [← after.count, ← consistent.count] at fewer
    exact Nat.lt_irrefl _ fewer
  · intro invalid
    have same : ∀ g : Handle, Codes.isValid
        (codes.set h { installation with code := installation.code.invalidate }) g =
        Codes.isValid codes g := by
      intro g
      by_cases own : h = g
      · subst own
        rw [isValid_set_self stored, before, invalid]
      · exact isValid_set_of_ne own _
    refine ⟨fun id g found => ?_, ?_⟩
    · rw [same]
      exact consistent.lookup id g found
    · rw [consistent.count]
      exact List.countP_congr fun g _ => by rw [same]

/-- Code of the cache `b` is invalidated through another cache `a`. Then `a` forgets the number of
the code, `b` is not told, and no other cache or code changes. So `a` keeps its own code exactly if
no live code of it had that number, and `b` stays consistent exactly if the code was invalid
before. -/
theorem invalidate_foreign_harmless_iff (reachable : Reachable space given) {a b : Nat}
    (distinct : a ≠ b) {through owner : CodeCache} (atA : space.caches[a]? = some through)
    (atB : space.caches[b]? = some owner) {h : Handle} (installed : h ∈ given b) :
    ∃ (installation : Installation) (left : CodeCache) (after : CodeSpace),
      space.codes[h]? = some installation ∧
      (space.invalidate a h).answer = (installation.code.valid, after) ∧
      after.caches[a]? = some left ∧ after.caches[b]? = some owner ∧
      (∀ p, a ≠ p → after.caches[p]? = space.caches[p]?) ∧
      (∀ g, h ≠ g → after.codes[g]? = space.codes[g]?) ∧ Codes.isValid after.codes h = false ∧
      (∀ id, left.lookup id = if id = installation.code.id then none else through.lookup id) ∧
      left.installedCount + (if (through.lookup installation.code.id).isSome then 1 else 0) =
        through.installedCount ∧
      (through.KeepsLive left ↔ through.lookup installation.code.id = none) ∧
      (Orderly space given → owner.Consistent space.codes (given b)) ∧
      (owner.Consistent space.codes (given b) →
        (owner.Consistent after.codes (given b) ↔ installation.code.valid = false)) := by
  obtain ⟨installation, stored⟩ : ∃ installation, space.codes[h]? = some installation :=
    ⟨_, List.getElem?_eq_getElem (reachable.lt_length installed)⟩
  refine ⟨installation, _, _, stored, answer_invalidate atA stored, caches_put_self atA _ _,
    (caches_put_of_ne space distinct _ _).trans atB,
    fun p differs => caches_put_of_ne space differs _ _,
    fun g differs => List.getElem?_set_ne differs, isValid_set_self stored,
    through.lookup_erase installation.code.id, through.installedCount_erase installation.code.id,
    through.keepsLive_erase_iff installation.code.id,
    fun orderly => (orderly.tracks atB).consistent, fun consistent => ?_⟩
  exact consistent_set_iff stored installed consistent

/-- A cache whose own code of the number is no longer live keeps the rest of its code. -/
theorem invalidate_foreign_harmless_of_dead :
    let code : Artifact := ⟨"code", [0xC3], 0, none⟩
    let target := Target.ofArchitecture Amd64.architecture 16 true
    let first := ((start [(target, none), (target, none)]).install 0 code).answer.2
    let second := (first.install 0 code).answer.2
    let third := (second.install 1 code).answer.2
    let space := (third.invalidate 0 0).answer.2
    ∃ through left, space.caches[0]? = some through ∧
      (space.invalidate 0 2).answer.2.caches[0]? = some left ∧ through.KeepsLive left ∧
      left.lookup 2 = some 1 := by
  intro code target first second third space
  have reachable := Reachable.start [(target, none), (target, none)]
  have reachable : Reachable first _ := reachable.install rfl code
  have reachable : Reachable second _ := reachable.install rfl code
  have reachable : Reachable third _ := reachable.install rfl code
  have reachable : Reachable space _ := reachable.invalidate (h := 0) rfl rfl
  obtain ⟨installation, left, after, stored, answer, atA, -, -, -, -, -, -, keeps, -⟩ :=
    invalidate_foreign_harmless_iff reachable (a := 0) (b := 1) (by decide) rfl rfl (h := 2)
      (by decide)
  cases stored
  have keeps := keeps.mpr rfl
  refine ⟨_, left, rfl, ?_, keeps, keeps.lookup 2 1 rfl⟩
  rw [answer]
  exact atA

/-- Two caches with one code each, both of number 1: to invalidate the second through the first
takes the live code out of the first, and leaves the invalid code in the second. -/
theorem invalidate_foreign_disturbs :
    let code : Artifact := ⟨"code", [0xC3], 0, none⟩
    let first := ((start [(.ofArchitecture Amd64.architecture 16 true, none),
      (.ofArchitecture AArch64.architecture 16 true, none)]).install 0 code).answer.2
    let space := (first.install 1 code).answer.2
    let after := (space.invalidate 0 1).answer.2
    (∃ given, Orderly space given ∧ 1 ∈ given 1) ∧
      space.lookup 0 1 = some 0 ∧ after.lookup 0 1 = none ∧
      space.caches.map CodeCache.installedCount = [1, 1] ∧
      after.caches.map CodeCache.installedCount = [0, 1] ∧
      after.lookup 1 1 = some 1 ∧ Codes.isValid after.codes 1 = false := by
  intro code first space after
  have orderly := Orderly.start [(.ofArchitecture Amd64.architecture 16 true, none),
    (.ofArchitecture AArch64.architecture 16 true, none)]
  have orderly : Orderly first _ := orderly.install rfl code (by decide)
  have orderly : Orderly space _ := orderly.install rfl code (by decide)
  exact ⟨⟨_, orderly, by decide⟩, rfl, rfl, rfl, rfl, rfl, rfl⟩

end CodeSpace
end JitBridge
