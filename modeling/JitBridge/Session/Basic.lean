import JitBridge.Backend.Registry
import JitBridge.Compiler.Selection
import JitBridge.Lock
import JitBridge.Services
import JitBridge.Statistics
import JitBridge.TypeName

/-!
A session is the one object the execution engine talks to. What is fixed when it starts is the
`Session` itself; what changes while it runs is its `Session.State`, which also holds the state of
the host program.
-/

namespace JitBridge

/-- What is fixed when a session has started. -/
structure Session (W : Type) where
  vm : VmConfig
  options : Options
  backends : BackendRegistry
  /-- The backend of the host architecture. -/
  host : Backend
  services : Services W
  /-- The chosen compiler factory. -/
  selection : Selection W
  /-- The adjustment policy of the chosen factory. -/
  adjustment : Adjustment
  /-- The trivial method prefixes of the chosen factory, if it has hooks. -/
  trivialPrefixes : Option (List String)
  types : Option TypeResolver

namespace Session

variable {W α : Type}

/-- What changes while a session runs. -/
structure State (W : Type) where
  /-- The state of the host program. -/
  world : W
  /-- The code cache of the host backend. -/
  cache : CodeCache
  /-- All code ever installed. -/
  codes : Codes := []
  /-- The compiler, once it is made. -/
  compiler : Option (Compiler W) := none
  /-- Held by the call that makes the compiler. -/
  lock : Lock := .sound
  /-- The listeners, once they are looked for. -/
  listeners : Option (List (Listener W)) := none
  statistics : Statistics := {}

/-- The state of a session that has just started. -/
def initial (session : Session W) (world : W) : State W where
  world := world
  cache := session.host.cache

/-- What the compiler factory sees. -/
def view (session : Session W) : HostView := ⟨session.vm, session.options, session.host⟩

/-- Runs an action of the host program. -/
def inWorld (x : Action W α) : Action (State W) α :=
  Action.zoom (·.world) (fun world s => { s with world }) x

/-- Changes the counters. -/
def count (f : Statistics → Statistics) : Action (State W) Unit :=
  modify fun s => { s with statistics := f s.statistics }

/-- Runs an operation of the host code cache. -/
def onCache (f : CodeCache → Codes → Emit (α × CodeCache × Codes)) : Action (State W) α :=
  Action.of fun s => do
    let (a, cache, codes) ← f s.cache s.codes
    pure (.ok a, { s with cache, codes })

end Session
end JitBridge
