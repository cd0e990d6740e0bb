/-!
The configuration a VM reports once at startup. The numbers that the VM gives to compilation levels
and to adjustment policies are part of it.
-/

namespace JitBridge

/-- The numbers of the compilation levels. -/
structure LevelNumbers where
  none : Int32 := 0
  simple : Int32 := 1
  limitedProfile : Int32 := 2
  fullProfile : Int32 := 3
  fullOptimization : Int32 := 4
deriving DecidableEq, Repr

/-- The numbers of the level adjustment policies. -/
structure AdjustmentNumbers where
  none : Int32 := 0
  byHolder : Int32 := 1
  byFullSignature : Int32 := 2
deriving DecidableEq, Repr

/-- What a VM reports. The defaults are those of a 64-bit x86-64 host that is not Windows. -/
structure VmConfig where
  hostArchitecture : String := "amd64"
  /-- Size of a machine word in bytes. -/
  wordSize : Nat := 8
  /-- Whether references are kept relative to a heap base register. -/
  compressedReferences : Bool := false
  windows : Bool := false
  /-- The largest frame of compiled code, in bytes. -/
  maxFrameSize : Nat := 16384
  adjustments : AdjustmentNumbers := {}
  levels : LevelNumbers := {}
deriving DecidableEq, Repr

namespace VmConfig

/-- One reported value: its type, its name and its text. -/
structure Flag where
  type : String
  name : String
  value : String
deriving DecidableEq, Repr

/-- All values, in the byte order of their names. -/
def flags (vm : VmConfig) : List Flag :=
  [⟨"bool", "UseCompressedOops", toString vm.compressedReferences⟩,
   ⟨"int", "compLevelAdjustmentByFullSignature", toString vm.adjustments.byFullSignature⟩,
   ⟨"int", "compLevelAdjustmentByHolder", toString vm.adjustments.byHolder⟩,
   ⟨"int", "compLevelAdjustmentNone", toString vm.adjustments.none⟩,
   ⟨"int", "compilationLevelFullOptimization", toString vm.levels.fullOptimization⟩,
   ⟨"int", "compilationLevelFullProfile", toString vm.levels.fullProfile⟩,
   ⟨"int", "compilationLevelLimitedProfile", toString vm.levels.limitedProfile⟩,
   ⟨"int", "compilationLevelNone", toString vm.levels.none⟩,
   ⟨"int", "compilationLevelSimple", toString vm.levels.simple⟩,
   ⟨"String", "hostArchitecture", vm.hostArchitecture⟩,
   ⟨"intx", "maxFrameSize", toString vm.maxFrameSize⟩,
   ⟨"bool", "windowsOs", toString vm.windows⟩,
   ⟨"intx", "wordSize", toString vm.wordSize⟩]

/-- One line for each value. -/
def text (vm : VmConfig) : String :=
  String.join (vm.flags.map fun flag =>
    s!"[vmconfig:flag] {flag.type} {flag.name} = {flag.value}\n")

end VmConfig
end JitBridge
