import JitBridge.Proofs.Session.Startup
import JitBridge.Session.Global
import Mathlib.Data.List.Induction

/-!
The process-wide session, over all that a process does with it. An attempt to install a session
starts one only where there is none, and then ends as the startup does, whether or not an attempt
before it has poisoned the lock. A session that is installed stays.

`GlobalSession.session?_afterCalls_eq_some_iff` puts the steps together: there is a session exactly
if a startup has succeeded, and it is that of the first one.
-/

namespace JitBridge

variable {W α : Type}

namespace SessionPlace

/-- What the ending of a startup, which leaves the host program in `world`, makes of an empty place.
-/
def afterStartup (world : W) : Except Fault (Started W) → Except Fault Installed × SessionPlace W
  | .error fault => (.error fault, vacant world)
  | .ok .exited => (.ok .exited, vacant world)
  | .ok (.running session) => (.ok .now, serving session (session.initial world))

theorem answer_install_vacant (plan : Plan W) (world : W) :
    let started := (plan.start.runFrom { world }).answer
    ((install plan).runFrom (vacant world)).answer = afterStartup started.2.world started.1 := by
  simp only [install, Action.runFrom_of, Emit.answer_bind]
  rcases (plan.start.runFrom { world }).answer with ⟨fault | ⟨session⟩ | _, s⟩ <;> rfl

/-- There is a session in the place exactly if the startup has succeeded. -/
theorem session?_afterStartup_eq_some_iff {world : W} {outcome : Except Fault (Started W)}
    {session : Session W} :
    (afterStartup world outcome).2.session? = some session ↔ outcome = .ok (.running session) := by
  rcases outcome with fault | other | _ <;> simp [afterStartup, session?]

theorem session?_eq_none_iff {place : SessionPlace W} :
    place.session? = none ↔ ∃ world, place = .vacant world := by
  cases place <;> simp [session?]

end SessionPlace

namespace GlobalSession

/-! ### One call -/

theorem answer_atPlace (x : Action (SessionPlace W) α) (process : GlobalSession W) :
    ((atPlace x).runFrom process).answer =
      ((x.runFrom process.place).answer.1,
        { process with place := (x.runFrom process.place).answer.2 }) := rfl

/-- A plan is dropped if there is a session. -/
theorem answer_install_of_some {process : GlobalSession W} {session : Session W}
    (there : process.session? = some session) (plan : Plan W) :
    ((install plan).runFrom process).answer = (.ok .before, process) := by
  rw [install, Action.answer_bind_of_ok (Action.answer_get process), there]
  rfl

/-- An empty place is given to what the plan starts, be the lock sound or poisoned. A startup that
panics poisons it. -/
theorem answer_install_of_vacant {process : GlobalSession W} {world : W}
    (empty : process.place = .vacant world) (plan : Plan W) :
    let started := (plan.start.runFrom { world }).answer
    let left := SessionPlace.afterStartup started.2.world started.1
    ((install plan).runFrom process).answer = (left.1, ⟨left.2, process.lock.release left.1⟩) := by
  intro started left
  have none : process.session? = none := SessionPlace.session?_eq_none_iff.mpr ⟨world, empty⟩
  rw [install, Action.answer_bind_of_ok (Action.answer_get process), none]
  have ended : ∀ _ : Lock.Guard, ((atPlace (SessionPlace.install plan)).runFrom process).answer =
      (left.1, { process with place := left.2 }) := by
    intro _
    rw [answer_atPlace, empty, SessionPlace.answer_install_vacant]
  exact Lock.answer_holding ended

/-- Something that a process does with its session. -/
inductive Call (W : Type) where
  | install (plan : Plan W)
  | run (x : Session W → Action (Session.State W) Unit)

/-- The process after a call. -/
def call (process : GlobalSession W) : Call W → GlobalSession W
  | .install plan => ((install plan).runFrom process).answer.2
  | .run x => ((run x).runFrom process).answer.2

/-- The process after calls, made one after the other. -/
def afterCalls (process : GlobalSession W) (calls : List (Call W)) : GlobalSession W :=
  calls.foldl call process

/-- A session that is installed stays, whatever it is made to do. -/
theorem session?_call_of_some {process : GlobalSession W} {session : Session W}
    (there : process.session? = some session) (next : Call W) :
    (process.call next).session? = some session := by
  cases next with
  | install plan => rwa [call, answer_install_of_some there]
  | run x =>
    rcases process with ⟨_ | ⟨session, state⟩, lock⟩
    · cases there
    · exact there

/-- Only a startup that succeeds puts a session into an empty place. -/
theorem session?_call_of_vacant {process : GlobalSession W} {world : W} {session : Session W}
    (empty : process.place = .vacant world) (next : Call W) :
    (process.call next).session? = some session ↔
      ∃ plan, next = .install plan ∧
        (plan.start.runFrom { world }).answer.1 = .ok (.running session) := by
  cases next with
  | install plan =>
    rw [call, answer_install_of_vacant empty]
    exact SessionPlace.session?_afterStartup_eq_some_iff.trans
      ⟨fun started => ⟨plan, rfl, started⟩, fun ⟨_, same, started⟩ => by cases same; exact started⟩
  | run x =>
    obtain ⟨place, lock⟩ := process
    cases empty
    simp [call, run, answer_atPlace, SessionPlace.run, session?, SessionPlace.session?]

/-! ### Runs -/

theorem session?_afterCalls_of_some {process : GlobalSession W} {session : Session W}
    (there : process.session? = some session) (calls : List (Call W)) :
    (process.afterCalls calls).session? = some session := by
  induction calls generalizing process with
  | nil => exact there
  | cons next calls ih => exact ih (session?_call_of_some there next)

/-- A process that begins without a session has one exactly if a startup has succeeded, and then
that of the first: the place was empty up to it. -/
theorem session?_afterCalls_eq_some_iff {process : GlobalSession W} (none : process.session? = none)
    (calls : List (Call W)) (session : Session W) :
    (process.afterCalls calls).session? = some session ↔
      ∃ before plan later world, calls = before ++ .install plan :: later ∧
        (process.afterCalls before).place = .vacant world ∧
        (plan.start.runFrom { world }).answer.1 = .ok (.running session) := by
  constructor
  · -- The last call finds the session of an earlier startup, or installs its own.
    induction calls using List.reverseRecOn with
    | nil =>
      intro there
      cases none.symm.trans there
    | append_singleton calls next ih =>
      rw [afterCalls, List.foldl_concat]
      intro there
      cases found : (process.afterCalls calls).session? with
      | some first =>
        obtain rfl : first = session :=
          Option.some.inj ((session?_call_of_some found next).symm.trans there)
        obtain ⟨before, plan, later, world, rfl, empty, started⟩ := ih found
        exact ⟨before, plan, later ++ [next], world, by simp, empty, started⟩
      | none =>
        obtain ⟨world, empty⟩ := SessionPlace.session?_eq_none_iff.mp found
        obtain ⟨plan, rfl, started⟩ := (session?_call_of_vacant empty next).mp there
        exact ⟨calls, plan, [], world, rfl, empty, started⟩
  · rintro ⟨before, plan, later, world, rfl, empty, started⟩
    rw [afterCalls, List.foldl_append]
    exact session?_afterCalls_of_some
      ((session?_call_of_vacant empty _).mpr ⟨plan, rfl, started⟩) later

/-- The first startup fails, the second is installed, and the third plan is dropped. -/
example :
    let install (host : String) : Call Unit :=
      .install { vm := { hostArchitecture := host }, services := .builtin .bytewise }
    let hostAfter (calls : List (Call Unit)) : Option String :=
      (afterCalls { place := .vacant () } calls).session?.map (·.vm.hostArchitecture)
    hostAfter [install "vax"] = none ∧
      hostAfter [install "vax", install "aarch64"] = some "aarch64" ∧
      hostAfter [install "vax", install "aarch64", install "amd64"] = some "aarch64" := by
  decide +kernel

end GlobalSession
end JitBridge
