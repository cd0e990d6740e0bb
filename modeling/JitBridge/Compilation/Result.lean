import JitBridge.Panic

/-!
Results of compilations. A compiler answers with the result the engine expects, or with a result of
its own kind, which can only be asked whether it failed.
-/

namespace JitBridge

/-- The result handed to the execution engine. -/
inductive CompileResult where
  /-- The number of inlined bytecodes, -1 if it is not known. -/
  | success (inlined : Int32)
  /-- The failure, and whether the engine may try again later. -/
  | failure (message : String) (retry : Bool)
deriving DecidableEq, Repr

namespace CompileResult

def isSuccess : CompileResult → Bool
  | success _ => true
  | failure _ _ => false

def inlined? : CompileResult → Option Int32
  | success inlined => some inlined
  | failure _ _ => none

def message? : CompileResult → Option String
  | success _ => none
  | failure message _ => some message

def retry : CompileResult → Bool
  | success _ => false
  | failure _ retry => retry

def text : CompileResult → String
  | success inlined => s!"success (inlined bytecodes: {inlined})"
  | failure message retry => s!"failure: {message} (retry: {retry})"

end CompileResult

/-- What a compiler answers. -/
inductive CompileAnswer where
  | native (result : CompileResult)
  /-- A result of the compiler's own kind: what it says when it is asked for its failure. Asking may
  panic. -/
  | foreign (failure : Except Panic (Option String))
deriving Repr

/-- The answer as a result. A foreign failure is never tried again, and a foreign success does not
know what was inlined. -/
def CompileAnswer.normalize : CompileAnswer → Except Panic CompileResult
  | native result => .ok result
  | foreign (.ok (some message)) => .ok (.failure message false)
  | foreign (.ok none) => .ok (.success (-1))
  | foreign (.error p) => .error p

end JitBridge
