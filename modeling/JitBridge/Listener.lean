import JitBridge.Action
import JitBridge.Code.Cache

/-!
Listeners to the events of a session. An event is told to the listeners in order, and the first
failure ends the round.
-/

namespace JitBridge

/-- A listener of the host program; by default it ignores every event. -/
structure Listener (W : Type) where
  /-- Code was installed in a cache. -/
  installed : CodeCache → InstalledCode → Artifact → Action W Unit := fun _ _ _ => pure ()
  /-- The VM is shutting down. -/
  shutdown : Action W Unit := pure ()
  /-- The VM has finished starting. -/
  bootstrapFinished : Action W Unit := pure ()

/-- Tells an event to listeners in order, up to the first that fails. -/
def Listener.broadcast {W : Type} (event : Listener W → Action W Unit) :
    List (Listener W) → Action W Unit
  | [] => pure ()
  | listener :: rest => do
    event listener
    broadcast event rest

end JitBridge
