import JitBridge.Compiler.Basic
import JitBridge.Listener

/-!
The services a session is built over, in the order in which they were registered.
-/

namespace JitBridge

/-- Backend factories, compiler factories and listeners, each in order of registration. -/
structure Services (W : Type) where
  backends : List BackendFactory := []
  compilers : List (CompilerFactory W) := []
  listeners : List (Listener W) := []

namespace Services

variable {W : Type}

/-- The backends of the supported architectures and nothing else. -/
def builtin (decoder : Decoder) : Services W := { backends := BackendFactory.builtin decoder }

def addCompiler (services : Services W) (factory : CompilerFactory W) : Services W :=
  { services with compilers := services.compilers ++ [factory] }

def addListener (services : Services W) (listener : Listener W) : Services W :=
  { services with listeners := services.listeners ++ [listener] }

end Services
end JitBridge
