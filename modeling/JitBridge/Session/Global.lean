import JitBridge.Session.Startup

/-!
The process-wide session. There is none at first; the first startup that succeeds installs it, and
it stays for good. A lock keeps startups from running beside each other.
-/

namespace JitBridge

/-- The place of the process-wide session: empty, with the state of the host program, or taken. -/
inductive SessionPlace (W : Type) where
  | vacant (world : W)
  | serving (session : Session W) (state : Session.State W)

/-- The process-wide session. -/
structure GlobalSession (W : Type) where
  place : SessionPlace W
  /-- Held by the call that installs a session. -/
  lock : Lock := .sound

/-- What an attempt to install a session came to. -/
inductive Installed where
  /-- The session was started and installed now. -/
  | now
  /-- There was one before; the plan was dropped. -/
  | before
  /-- The startup ended the process. -/
  | exited
deriving DecidableEq, Repr

namespace SessionPlace

variable {W α : Type}

/-- The session, if it is installed. -/
def session? : SessionPlace W → Option (Session W)
  | vacant _ => none
  | serving session _ => some session

/-- Installs the session of a plan in an empty place. -/
def install (plan : Plan W) : Action (SessionPlace W) Installed :=
  Action.of fun
    | serving session state => pure (.ok .before, serving session state)
    | vacant world => do
      let (outcome, s) ← plan.start.runFrom { world }
      match outcome with
      | .error fault => pure (.error fault, vacant s.world)
      | .ok .exited => pure (.ok .exited, vacant s.world)
      | .ok (.running session) => pure (.ok .now, serving session (session.initial s.world))

/-- Runs an action of the installed session; `none` if there is none. -/
def run (x : Session W → Action (Session.State W) α) : Action (SessionPlace W) (Option α) :=
  Action.of fun
    | vacant world => pure (.ok none, vacant world)
    | serving session state => do
      let (outcome, state) ← (x session).runFrom state
      pure (outcome.map some, serving session state)

end SessionPlace

namespace GlobalSession

variable {W α : Type}

/-- The session, if it is installed. -/
def session? (process : GlobalSession W) : Option (Session W) := process.place.session?

/-- Acts on the place of the session. -/
def atPlace (x : Action (SessionPlace W) α) : Action (GlobalSession W) α :=
  Action.zoom (·.place) (fun place process => { process with place }) x

/-- Installs the session of a plan if there is none. The place is looked at again under the lock: it
may have been taken while the call waited. -/
def install (plan : Plan W) : Action (GlobalSession W) Installed := do
  match (← get).session? with
  | some _ => return .before
  | none =>
    Lock.holding (·.lock) (fun lock process => { process with lock }) fun _ =>
      atPlace (SessionPlace.install plan)

/-- Runs an action of the installed session; `none` if there is none. -/
def run (x : Session W → Action (Session.State W) α) : Action (GlobalSession W) (Option α) :=
  atPlace (SessionPlace.run x)

end GlobalSession
end JitBridge
