import JitBridge.Session.Basic
import JitBridge.Timer

/-!
The startup of a session, in a fixed order: find the factory of the host backend, make and register
the backend, print what the options ask for, choose the compiler factory, ask it for its hooks. The
first stage that fails ends the startup. Two options end the whole process after printing.
-/

namespace JitBridge

/-- What a session is started from. -/
structure Plan (W : Type) where
  vm : VmConfig := {}
  options : Options := {}
  services : Services W
  types : Option TypeResolver := none
  /-- Attached to the host code cache. -/
  executor : Option Executor := none

/-- How a startup ended without a fault. -/
inductive Started (W : Type) where
  | running (session : Session W)
  /-- The process ended after printing what was asked for. -/
  | exited

namespace Plan

variable {W α : Type}

/-- What changes during a startup: the state of the host program, and the number of running timers.
-/
structure State (W : Type) where
  world : W
  depth : Nat := 0

/-- Starts a timer. -/
def startTimer (enabled : Bool) (label : String) : Action (State W) Timer :=
  Action.of fun s => do
    let (timer, depth) ← Timer.start enabled label s.depth
    pure (.ok timer, { s with depth })

/-- Finishes a timer. -/
def finishTimer (timer : Timer) : Action (State W) Unit :=
  Action.of fun s => do
    let depth ← timer.finish s.depth
    pure (.ok (), { s with depth })

/-- Runs a stage under a timer, which finishes however the stage ends. -/
def timed (enabled : Bool) (label : String) (stage : Action (State W) α) : Action (State W) α := do
  let timer ← startTimer enabled label
  let outcome ← Action.attempt stage
  finishTimer timer
  Action.ofExcept outcome

/-- Finds the factory of the host backend. -/
def findFactory (plan : Plan W) : Action (State W) BackendFactory :=
  Action.ofExcept <|
    match BackendFactory.find plan.services.backends plan.vm.hostArchitecture with
    | .ok (_, factory) => .ok factory
    | .error e => .error (.error e)

/-- A backend with the plan's executor attached to its code cache. -/
def withExecutor (plan : Plan W) (backend : Backend) : Backend :=
  match plan.executor with
  | some executor => { backend with cache := (backend.cache.attach executor).2 }
  | none => backend

/-- Makes the host backend and registers it. -/
def createBackend (plan : Plan W) (factory : BackendFactory) :
    Action (State W) (Backend × BackendRegistry) := do
  let made ← Action.ofEmit (factory.create plan.vm).run
  let backend ← Action.ofExcept made
  let backend := plan.withExecutor backend
  let (registered, registry) ← Action.ofEmit (BackendRegistry.register {} backend)
  match registered with
  | .ok () => return (backend, registry)
  | .error p => Action.panic p

/-- The value of a boolean option. -/
def flag (plan : Plan W) (key : OptionKey) : Action (State W) Bool :=
  Action.ofExcept ((plan.options.getBool key).mapError .panic)

/-- Prints what the options ask for; answers whether the process ends after that. -/
def printOptions (plan : Plan W) : Action (State W) Bool := do
  let printFlags ← plan.flag .printFlags
  let shown ← if printFlags then pure true else plan.flag .showFlags
  if shown then
    Action.print plan.options.table
  if printFlags then
    return true
  if ← plan.flag .printConfig then
    Action.print plan.vm.text
    return true
  return false

/-- Chooses the compiler factory. -/
def selectFactory (plan : Plan W) : Action (State W) (Selection W) :=
  Action.zoom (·.world) (fun world s => { s with world }) do
    let requested ← Action.ofExcept (plan.options.compiler.mapError .panic)
    let (selection, _) ← Resolver.getOrResolve {} requested plan.services.compilers
    return selection

/-- The session over a host backend and a chosen factory. -/
def session (plan : Plan W) (host : Backend) (backends : BackendRegistry)
    (selection : Selection W) : Session W where
  vm := plan.vm
  options := plan.options
  backends := backends
  host := host
  services := plan.services
  selection := selection
  adjustment := (selection.factory.hooks.map (·.adjustment)).getD .none
  trivialPrefixes := selection.factory.hooks.map (·.trivialPrefixes)
  types := plan.types

/-- The stages of a startup in order, each under a timer if there is `timing`. -/
def stages (plan : Plan W) (timing : Bool) : Action (State W) (Started W) := do
  let architecture := plan.vm.hostArchitecture
  let factory ← timed timing s!"find factory: {architecture}" plan.findFactory
  let (host, backends) ←
    timed timing s!"create backend: {architecture}" (plan.createBackend factory)
  if ← plan.printOptions then
    return .exited
  let selection ← timed timing "resolve compiler factory" plan.selectFactory
  let session := plan.session host backends selection
  Action.log .debug (s!"runtime ready: host {host.arch.name}, compiler " ++
    s!"'{selection.factory.name}', level adjustment {session.adjustment.label}")
  return .running session

/-- Starts a session. If there is `timing` a timer runs around all stages; if the process ends it
does not finish. -/
def startTimed (plan : Plan W) (timing : Bool) : Action (State W) (Started W) := do
  let timer ← startTimer timing "Runtime<init>"
  match ← Action.attempt (plan.stages timing) with
  | .ok .exited => return .exited
  | outcome =>
    finishTimer timer
    Action.ofExcept outcome

/-- Starts a session, with timers if the options ask for them. -/
def start (plan : Plan W) : Action (State W) (Started W) := do
  let timing ← Action.ofExcept (plan.options.initTimer.mapError .panic)
  plan.startTimed timing

end Plan
end JitBridge
