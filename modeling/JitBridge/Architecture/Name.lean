/-!
The architectures that have a backend, and the names under which a configuration reports them.
-/

namespace JitBridge

/-- An architecture with a backend. -/
inductive Arch where
  | amd64 | aarch64
deriving DecidableEq, Repr, Inhabited

/-- The canonical name of the architecture. -/
def Arch.name : Arch → String
  | .amd64 => "amd64"
  | .aarch64 => "aarch64"

end JitBridge
