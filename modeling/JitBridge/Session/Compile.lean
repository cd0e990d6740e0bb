import JitBridge.Session.Basic

/-!
Dispatch of compile requests. The compiler is made when it is first needed. Whatever goes wrong
while it is made or runs, an error or a panic, becomes a failure that must not be tried again.
-/

namespace JitBridge.Session

variable {W : Type}

/-- Runs an action that holds the lock of a session. -/
def locked {α : Type} (x : Lock.Guard → Action (State W) α) : Action (State W) α :=
  Lock.holding (·.lock) (fun lock s => { s with lock }) x

/-- The compiler, if it was made while the call waited for the lock, or else what the chosen factory
makes. -/
def makeCompiler (session : Session W) : Action (State W) (Compiler W) := do
  match (← get).compiler with
  | some compiler => return compiler
  | none =>
    let compiler ← inWorld (session.selection.factory.create session.view)
    Action.log .debug s!"created compiler '{session.selection.factory.name}'"
    modify fun s => { s with compiler := some compiler }
    return compiler

/-- The compiler; it is made on first use. A failed attempt leaves no compiler, so the next use
tries again, even if the attempt has poisoned the lock. -/
def compiler (session : Session W) : Action (State W) (Compiler W) := do
  match (← get).compiler with
  | some compiler => return compiler
  | none => locked fun _ => session.makeCompiler

/-- The message for a panic of a compiler. -/
def panicMessage (p : Panic) : String :=
  match p.text? with
  | some text => s!"compiler panicked: {text}"
  | none => "compiler panicked"

/-- The answer of the compiler to a request. -/
def ask (session : Session W) (request : Request) : Action (State W) CompileAnswer := do
  let compiler ← session.compiler
  inWorld (compiler.compile request)

/-- The result for the way in which asking the compiler ended, and whether it panicked. -/
def resultOf (request : Request) :
    Except Fault CompileAnswer → Action (State W) (CompileResult × Bool)
  | .ok answer =>
    match answer.normalize with
    | .ok result => return (result, false)
    | .error p => Action.panic p
  | .error (.error e) => do
    Action.log .warn
      s!"compilation of {request.method.text} (id {request.id}) failed: {e.message}"
    return (.failure e.message false, false)
  | .error (.panic p) => do
    Action.log .error
      s!"compiler panicked on {request.method.text} (id {request.id}): {panicMessage p}"
    return (.failure (panicMessage p) false, true)

/-- Compiles a method on behalf of the execution engine. -/
def compile (session : Session W) (request : Request) : Action (State W) CompileResult := do
  count (·.countRequest)
  let outcome ← Action.attempt (session.ask request)
  let (result, panicked) ← resultOf request outcome
  if result.isSuccess then
    count (·.countSuccess)
  else
    count (·.countFailure panicked)
  return result

end JitBridge.Session
