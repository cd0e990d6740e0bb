import JitBridge.Fault
import JitBridge.Text.Quoted

/-!
Compiled code and the handles under which it is installed. A handle is valid from its installation
to its first invalidation; while it is valid it has an entry address, and it can be executed if an
executor was attached to its cache when it was installed.
-/

namespace JitBridge

/-- A managed value passed to or returned from installed code. Floating point values are kept as
their bits. -/
inductive Value where
  | int (value : Int32)
  | long (value : Int64)
  | float (bits : UInt32)
  | double (bits : UInt64)
  /-- An object handle that only the execution engine understands. -/
  | object (handle : UInt64)
  | null
  | void
deriving DecidableEq, Repr

/-- Machine code made for one request. -/
structure Artifact where
  name : String
  code : List UInt8
  /-- Frame size of the compiled method in bytes. -/
  frameSize : Nat
  /-- The request that led to the code, if known. -/
  requestId : Option Int32
deriving DecidableEq, Repr

/-- Installed code. -/
structure InstalledCode where
  id : UInt64
  /-- Where the code starts. -/
  entry : UInt64
  /-- How often the code was invalidated. -/
  version : UInt64
  valid : Bool
  artifact : Artifact
deriving DecidableEq, Repr

namespace InstalledCode

def name (code : InstalledCode) : String := code.artifact.name

/-- The entry address, or 0 for invalid code. -/
def address (code : InstalledCode) : UInt64 := if code.valid then code.entry else 0

/-- The code after an invalidation; nothing changes if it is invalid. -/
def invalidate (code : InstalledCode) : InstalledCode :=
  if code.valid then { code with valid := false, version := code.version + 1 } else code

/-- The state of the handle on one line; the address is shown also for invalid code. -/
def summary (code : InstalledCode) : String :=
  "InstalledCode \x7b id: " ++ toString code.id ++ ", name: " ++ Text.quoted code.name ++
    ", address: 0x" ++ Text.hex code.entry.toNat ++ ", version: " ++ toString code.version ++
    ", valid: " ++ toString code.valid ++ " \x7d"

end InstalledCode

/-- Enters compiled code; provided by the execution engine. -/
abbrev Executor : Type := InstalledCode → List Value → Except Fault Value

/-- Installed code with the executor of its cache at the time of its installation. -/
structure Installation where
  code : InstalledCode
  executor : Option Executor

namespace Installation

/-- Executes the code: an error if it is invalid, or if it has no executor. -/
def execute (installation : Installation) (args : List Value) : Except Fault Value :=
  if installation.code.valid then
    match installation.executor with
    | some executor => executor installation.code args
    | none => .error (.error (.notExecutable installation.code.name))
  else .error (.error (.invalidInstalledCode installation.code.name))

end Installation
end JitBridge
