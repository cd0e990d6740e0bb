import JitBridge.Code.Cache

/-!
Several independent code caches over one list of installed code. An operation names its cache by its
place; on a place that holds no cache it does nothing.
-/

namespace JitBridge

/-- Code caches, and all code ever installed in them. -/
structure CodeSpace where
  caches : List CodeCache
  codes : Codes := []

namespace CodeSpace

/-- The caches with the one at a place replaced. -/
def put (space : CodeSpace) (place : Nat) (cache : CodeCache) (codes : Codes) : CodeSpace :=
  ⟨space.caches.set place cache, codes⟩

def install (space : CodeSpace) (place : Nat) (artifact : Artifact) :
    Emit (Option Handle × CodeSpace) :=
  match space.caches[place]? with
  | none => pure (none, space)
  | some cache => do
    let (handle, cache, codes) ← cache.install space.codes artifact
    pure (some handle, space.put place cache codes)

def attach (space : CodeSpace) (place : Nat) (executor : Executor) : Bool × CodeSpace :=
  match space.caches[place]? with
  | none => (false, space)
  | some cache =>
    let (first, cache) := cache.attach executor
    (first, space.put place cache space.codes)

/-- Invalidates code through a cache, which need not be the one where it was installed. -/
def invalidate (space : CodeSpace) (place : Nat) (handle : Handle) : Emit (Bool × CodeSpace) :=
  match space.caches[place]? with
  | none => pure (false, space)
  | some cache => do
    let (was, cache, codes) ← cache.invalidate space.codes handle
    pure (was, space.put place cache codes)

def lookup (space : CodeSpace) (place : Nat) (id : UInt64) : Option Handle :=
  space.caches[place]?.bind (·.lookup id)

/-- The listing of code by a cache's disassembler. -/
def listing (space : CodeSpace) (place : Nat) (handle : Handle) :
    Option (Except Panic String) := do
  let cache ← space.caches[place]?
  let installation ← space.codes[handle]?
  cache.listing installation.code

end CodeSpace
end JitBridge
