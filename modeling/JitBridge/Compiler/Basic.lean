import JitBridge.Backend.Basic
import JitBridge.Compilation.Request
import JitBridge.Compilation.Result
import JitBridge.Level
import JitBridge.Options.Basic

/-!
Pluggable compilers. A compiler is made by a factory, which is chosen by its name. Compilers and
factories belong to the host program: they act on its state `W`, and each call may fail or panic.
-/

namespace JitBridge

/-- A compiler of the host program. -/
structure Compiler (W : Type) where
  /-- Tells the compilers of a factory apart. -/
  serial : Nat
  compile : Request → Action W CompileAnswer

/-- What a factory sees when it makes a compiler. -/
structure HostView where
  vm : VmConfig
  options : Options
  backend : Backend

/-- Hooks by which a factory steers tiered compilation. Hooks return: other than a compiler they
neither fail nor panic nor act on the state of the host program. -/
structure Hooks where
  /-- What the VM has to pass when it asks for another level. -/
  adjustment : Adjustment := .none
  /-- Prefixes of method names that the engine may treat as trivial. -/
  trivialPrefixes : List String := []
  /-- The level for a method, given its declaring type, name and signature, whether a running method
  is replaced, and the level chosen so far. -/
  adjust : (holder name signature : String) → (onStackReplacement : Bool) → Level → Level :=
    fun _ _ _ _ level => level

/-- Makes a compiler. -/
structure CompilerFactory (W : Type) where
  name : String
  /-- Called when the factory is chosen. -/
  onSelection : W → W := id
  create : HostView → Action W (Compiler W)
  hooks : Option Hooks := none

/-- Compiles nothing. -/
def Compiler.stub {W : Type} : Compiler W where
  serial := 0
  compile := fun _ => Action.fail .noCompilerSelected

/-- The name of the factory of the compiler that compiles nothing. -/
def stubName : String := "<none>"

/-- Makes the compiler that compiles nothing. -/
def CompilerFactory.stub {W : Type} : CompilerFactory W where
  name := stubName
  create := fun _ => pure Compiler.stub

end JitBridge
