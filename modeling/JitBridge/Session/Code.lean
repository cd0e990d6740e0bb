import JitBridge.Session.Events

/-!
Code of a session: installed in the host code cache, told to the listeners, counted.
-/

namespace JitBridge.Session

variable {W : Type}

/-- Installs code and tells the listeners. If a listener fails, the code stays installed. -/
def install (session : Session W) (artifact : Artifact) : Action (State W) Handle := do
  let code := (← get).cache.nextCode artifact
  let handle ← onCache (·.install · artifact)
  count (·.countInstall artifact.code.length)
  session.notifyInstall code artifact
  return handle

/-- Invalidates code; answers whether it was valid. -/
def invalidate (handle : Handle) : Action (State W) Bool := do
  let was ← onCache (·.invalidate · handle)
  if was then
    count (·.countInvalidation)
  return was

/-- Attaches an executor to the host code cache. -/
def attach (executor : Executor) : Action (State W) Bool :=
  onCache fun cache codes =>
    let (first, cache) := cache.attach executor
    pure (first, cache, codes)

end JitBridge.Session
