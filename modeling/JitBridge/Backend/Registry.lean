import JitBridge.Backend.Basic

/-!
The registered backends, by architecture.
-/

namespace JitBridge

/-- Backends by architecture. -/
structure BackendRegistry where
  backends : Table Arch Backend := ∅

namespace BackendRegistry

def get? (registry : BackendRegistry) (arch : Arch) : Option Backend := registry.backends.get? arch

def size (registry : BackendRegistry) : Nat := registry.backends.size

def isEmpty (registry : BackendRegistry) : Bool := registry.size == 0

/-- All backends with their architectures, in no particular order. -/
def toList (registry : BackendRegistry) : List (Arch × Backend) := registry.backends.toList

/-- Registers a backend for its architecture. If there was one already, the call panics after the
new backend has taken its place. -/
def register (registry : BackendRegistry) (backend : Backend) :
    Emit (Except Panic Unit × BackendRegistry) :=
  let registered : BackendRegistry := ⟨registry.backends.insert backend.arch backend⟩
  match registry.get? backend.arch with
  | some _ => pure (.error (.backendExists backend.arch), registered)
  | none => do
    Emit.log .debug s!"registered backend for {backend.arch.name}"
    pure (.ok (), registered)

end BackendRegistry
end JitBridge
