/-!
Errors a caller is expected to handle, and their texts.
-/

namespace JitBridge

/-- Why a call failed. -/
inductive Error where
  | unsupportedArchitecture (arch : String)
  | compilerNotFound (name : String)
  /-- Word sizes in bytes: the architecture's, then the one the VM reports. -/
  | wordSizeMismatch (arch : String) (expected actual : Nat)
  | illegalState (reason : String)
  | noCompilerSelected
  | compilation (message : String)
  | invalidInstalledCode (name : String)
  | notExecutable (name : String)
  | invalidSignature (descriptor reason : String)
  | invalidTypeChar (ch : Char)
  /-- An event listener failed; `source` is the text of its failure. -/
  | listener (source : String)
deriving DecidableEq, Repr

namespace Error

/-- The name of the kind of error. -/
def label : Error → String
  | unsupportedArchitecture _ => "UnsupportedArchitecture"
  | compilerNotFound _ => "CompilerNotFound"
  | wordSizeMismatch .. => "WordSizeMismatch"
  | illegalState _ => "IllegalState"
  | noCompilerSelected => "NoCompilerSelected"
  | compilation _ => "Compilation"
  | invalidInstalledCode _ => "InvalidInstalledCode"
  | notExecutable _ => "NotExecutable"
  | invalidSignature .. => "InvalidSignature"
  | invalidTypeChar _ => "InvalidTypeChar"
  | listener _ => "Listener"

/-- The text of an error. -/
def message : Error → String
  | unsupportedArchitecture arch => s!"No runtime available for the {arch} architecture"
  | compilerNotFound name => s!"Compiler '{name}' not found"
  | wordSizeMismatch arch expected actual =>
      s!"Word size mismatch for {arch}: architecture uses {expected} bytes, VM reports {actual}"
  | illegalState reason => s!"Illegal state: {reason}"
  | noCompilerSelected => "no compiler selected"
  | compilation message => s!"Compilation failed: {message}"
  | invalidInstalledCode name => s!"Installed code '{name}' has been invalidated"
  | notExecutable name => s!"Installed code '{name}' cannot be executed: no executor attached"
  | invalidSignature descriptor reason => s!"Invalid method descriptor '{descriptor}': {reason}"
  | invalidTypeChar ch => s!"Not a primitive or void type character: '{ch}'"
  | listener source => s!"Event listener failed: {source}"

/-- The text of the failure that lies behind an error. -/
def source? : Error → Option String
  | listener source => some source
  | _ => none

end Error
end JitBridge
