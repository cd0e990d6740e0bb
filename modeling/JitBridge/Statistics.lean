/-!
Counters of a session. They are 64 bits wide and wrap.
-/

namespace JitBridge

/-- The counters of a session. -/
structure Statistics where
  requests : UInt64 := 0
  successes : UInt64 := 0
  failures : UInt64 := 0
  /-- Failures that came from a panic. -/
  panics : UInt64 := 0
  installs : UInt64 := 0
  invalidations : UInt64 := 0
  /-- Bytes of all code ever installed. -/
  installedBytes : UInt64 := 0
deriving DecidableEq, Repr

namespace Statistics

def countRequest (s : Statistics) : Statistics := { s with requests := s.requests + 1 }

def countSuccess (s : Statistics) : Statistics := { s with successes := s.successes + 1 }

/-- Counts a failure, and a panic if it came from one. -/
def countFailure (s : Statistics) (panicked : Bool) : Statistics :=
  { s with
    failures := s.failures + 1
    panics := if panicked then s.panics + 1 else s.panics }

/-- Counts an installation of that many bytes. -/
def countInstall (s : Statistics) (bytes : Nat) : Statistics :=
  { s with
    installs := s.installs + 1
    installedBytes := s.installedBytes + UInt64.ofNat bytes }

def countInvalidation (s : Statistics) : Statistics :=
  { s with invalidations := s.invalidations + 1 }

/-- One line for each counter; panics only if there were any. -/
def text (s : Statistics) : String :=
  s!"Runtime Statistics:\n  Compile requests: {s.requests}\n  Succeeded: {s.successes}\n" ++
  s!"  Failed: {s.failures}\n" ++
  (if s.panics > 0 then s!"    of which compiler panics: {s.panics}\n" else "") ++
  s!"  Installed: {s.installs} ({s.installedBytes} bytes)\n  Invalidated: {s.invalidations}\n"

end Statistics
end JitBridge
