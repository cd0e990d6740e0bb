import JitBridge.Architecture.Basic
import JitBridge.Code.Installed
import JitBridge.Listing.Basic
import JitBridge.Output
import JitBridge.Table

/-!
Code caches. A cache numbers the code installed in it from 1, gives it consecutive address ranges,
and knows which of it is live. All code that was ever installed, in any cache, is kept in one list;
a handle is a place in that list.
-/

namespace JitBridge

/-- All installed code, in the order of installation. -/
abbrev Codes : Type := List Installation

/-- A place in `Codes`. -/
abbrev Handle : Type := Nat

/-- The installed code of one backend. -/
structure CodeCache where
  target : Target
  /-- The disassembler of the architecture, if it has one. -/
  decoder : Option Decoder
  /-- The executor that was attached first. -/
  executor : Option Executor := none
  /-- Live code by id. -/
  live : Table UInt64 Handle := ∅
  nextId : UInt64 := 1
  nextAddress : UInt64 := 0x7f0000000000

namespace CodeCache

/-- Entries are aligned to this many bytes. -/
def alignment : Nat := 32

/-- The bytes set aside for code of that length: a positive multiple of the alignment. -/
def span (length : Nat) : Nat := (max length 1 + (alignment - 1)) / alignment * alignment

/-- Attaches an executor for code installed from now on; only the first one is taken. -/
def attach (cache : CodeCache) (executor : Executor) : Bool × CodeCache :=
  match cache.executor with
  | some _ => (false, cache)
  | none => (true, { cache with executor := some executor })

/-- The handle state of the next installation. -/
def nextCode (cache : CodeCache) (artifact : Artifact) : InstalledCode where
  id := cache.nextId
  entry := cache.nextAddress
  version := 0
  valid := true
  artifact := artifact

/-- The cache after an installation under `handle`. -/
def afterInstall (cache : CodeCache) (artifact : Artifact) (handle : Handle) : CodeCache :=
  { cache with
    live := cache.live.insert cache.nextId handle
    nextId := cache.nextId + 1
    nextAddress := cache.nextAddress + UInt64.ofNat (span artifact.code.length) }

/-- Installs code; answers with its handle. -/
def install (cache : CodeCache) (codes : Codes) (artifact : Artifact) :
    Emit (Handle × CodeCache × Codes) := do
  let code := cache.nextCode artifact
  let handle := codes.length
  Emit.log .debug (s!"installed '{artifact.name}' ({artifact.code.length} bytes) at 0x" ++
    Text.hex code.entry.toNat ++ s!" as id {code.id}")
  pure (handle, cache.afterInstall artifact handle, codes ++ [⟨code, cache.executor⟩])

/-- Invalidates code; answers whether it was valid. The cache forgets the id of the code, wherever
the code was installed. -/
def invalidate (cache : CodeCache) (codes : Codes) (handle : Handle) :
    Emit (Bool × CodeCache × Codes) :=
  match codes[handle]? with
  | none => pure (false, cache, codes)
  | some installation => do
    let code := installation.code
    let cache := { cache with live := cache.live.erase code.id }
    if code.valid then
      Emit.log .debug s!"invalidated '{code.name}' (id {code.id})"
    pure (code.valid, cache, codes.set handle { installation with code := code.invalidate })

/-- The live code with that id. -/
def lookup (cache : CodeCache) (id : UInt64) : Option Handle := cache.live.get? id

/-- The number of live codes. -/
def installedCount (cache : CodeCache) : Nat := cache.live.size

/-- The listing of code at its entry, if the architecture has a disassembler. -/
def listing (cache : CodeCache) (code : InstalledCode) : Option (Except Panic String) :=
  cache.decoder.map fun decode => decode.listing code.entry code.artifact.code

end CodeCache

/-- Executes the code of a handle; `none` if there is no such handle. -/
def Codes.execute (codes : Codes) (handle : Handle) (args : List Value) :
    Option (Except Fault Value) :=
  codes[handle]?.map fun installation => installation.execute args

end JitBridge
