import JitBridge.Error
import JitBridge.Panic

/-!
The two ways in which a call ends without an answer: it fails with an error, which its caller is
expected to handle, or it panics.
-/

namespace JitBridge

/-- A call that ended without an answer. -/
inductive Fault where
  | error (error : Error)
  | panic (panic : Panic)
deriving DecidableEq, Repr

end JitBridge
