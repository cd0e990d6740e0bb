import JitBridge.Signature.Basic

/-!
Methods to be compiled, and requests to compile them.
-/

namespace JitBridge

/-- A method of a declaring type. -/
structure Method where
  /-- The declaring type. -/
  holder : String
  name : String
  signature : Signature
deriving DecidableEq, Repr

namespace Method

/-- The method with that descriptor. -/
def ofDescriptor (holder name descriptor : String) : Except Error Method :=
  (Signature.parse descriptor).map fun signature => ⟨holder, name, signature⟩

/-- Declaring type, name and descriptor, as in `demo.Main.run()V`. -/
def text (method : Method) : String :=
  s!"{method.holder}.{method.name}{method.signature.descriptor}"

end Method

/-- The entry index of a compilation for plain invocation. -/
def invocationEntry : Int32 := -1

/-- A request of the execution engine. -/
structure Request where
  method : Method
  /-- Where execution enters the method: an index of a bytecode, or `invocationEntry`. -/
  entryIndex : Int32
  /-- The engine's compilation environment, handed through. -/
  environment : UInt64
  id : Int32
deriving DecidableEq, Repr

/-- Whether a running method is to be replaced: execution enters it elsewhere than at its start. -/
def Request.isOnStackReplacement (request : Request) : Bool :=
  request.entryIndex != invocationEntry

end JitBridge
