import JitBridge.VmConfig

/-!
Tiered compilation levels and the policies by which a compiler may adjust them. A VM names both by
numbers of its own choice; numbers may coincide, and then a number stands for the first level that
has it.
-/

namespace JitBridge

/-- A tiered compilation level. -/
inductive Level where
  | none | simple | limitedProfile | fullProfile | fullOptimization
deriving DecidableEq, Repr

namespace Level

/-- All levels, in order of declaration. -/
def all : List Level := [none, simple, limitedProfile, fullProfile, fullOptimization]

def label : Level → String
  | none => "None"
  | simple => "Simple"
  | limitedProfile => "LimitedProfile"
  | fullProfile => "FullProfile"
  | fullOptimization => "FullOptimization"

/-- The VM's number for the level. -/
def toVm (vm : VmConfig) : Level → Int32
  | none => vm.levels.none
  | simple => vm.levels.simple
  | limitedProfile => vm.levels.limitedProfile
  | fullProfile => vm.levels.fullProfile
  | fullOptimization => vm.levels.fullOptimization

/-- The first level with that number. -/
def ofVm? (vm : VmConfig) (number : Int32) : Option Level :=
  all.find? fun level => number == level.toVm vm

theorem mem_all (level : Level) : level ∈ all := by cases level <;> decide

end Level

/-- What a VM passes when it asks a compiler to adjust a level. -/
inductive Adjustment where
  /-- It never asks. -/
  | none
  /-- The declaring type. -/
  | byHolder
  /-- Declaring type, name and signature. -/
  | byFullSignature
deriving DecidableEq, Repr, Inhabited

namespace Adjustment

def label : Adjustment → String
  | none => "None"
  | byHolder => "ByHolder"
  | byFullSignature => "ByFullSignature"

/-- The VM's number for the policy. -/
def toVm (vm : VmConfig) : Adjustment → Int32
  | none => vm.adjustments.none
  | byHolder => vm.adjustments.byHolder
  | byFullSignature => vm.adjustments.byFullSignature

end Adjustment
end JitBridge
