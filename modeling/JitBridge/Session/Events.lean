import JitBridge.Session.Basic

/-!
Events of a session, told to its listeners. The listeners are looked for when the first event
occurs.
-/

namespace JitBridge.Session

variable {W : Type}

/-- The listeners in order of registration. -/
def listeners (session : Session W) : Action (State W) (List (Listener W)) := do
  match (← get).listeners with
  | some listeners => return listeners
  | none =>
    let listeners := session.services.listeners
    Action.log .debug s!"discovered {listeners.length} event listener(s)"
    modify fun s => { s with listeners := some listeners }
    return listeners

/-- Tells an event to the listeners. -/
def broadcast (session : Session W) (event : Listener W → Action W Unit) :
    Action (State W) Unit := do
  let listeners ← session.listeners
  inWorld (Listener.broadcast event listeners)

/-- Tells that code was installed in the host code cache. -/
def notifyInstall (session : Session W) (code : InstalledCode) (artifact : Artifact) :
    Action (State W) Unit := do
  let cache := (← get).cache
  session.broadcast fun listener => listener.installed cache code artifact

/-- Tells that the VM shuts down, after the counters are logged. -/
def shutdown (session : Session W) : Action (State W) Unit := do
  let counters := (← get).statistics.text
  Action.log .debug ("shutdown\n" ++ counters)
  session.broadcast (·.shutdown)

/-- Tells that the VM has finished starting. -/
def bootstrapFinished (session : Session W) : Action (State W) Unit :=
  session.broadcast (·.bootstrapFinished)

end JitBridge.Session
