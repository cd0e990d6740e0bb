import JitBridge.Compiler.Basic

/-!
Selection of the system compiler's factory. If no name is requested the stub is taken, so there is
always a compiler to call. A requested name has to be the exact name of a candidate; the first one
is taken, and told so. A resolver remembers the first selection that succeeds.
-/

namespace JitBridge

/-- A chosen factory. -/
structure Selection (W : Type) where
  /-- Its place among the candidates; `none` for the stub. -/
  place : Option Nat
  factory : CompilerFactory W

namespace Selection

variable {W : Type}

/-- The first candidate with that name, and its place. -/
def find? (name : String) (candidates : List (CompilerFactory W)) : Option (Selection W) :=
  (candidates.zipIdx.find? (·.1.name == name)).map fun (factory, place) => ⟨some place, factory⟩

/-- Chooses among the candidates. -/
def select (requested : Option String) (candidates : List (CompilerFactory W)) :
    Action W (Selection W) :=
  match requested with
  | none => do
    Action.log .debug s!"no compiler requested, using {stubName}"
    return ⟨none, .stub⟩
  | some name =>
    match find? name candidates with
    | none => Action.fail (.compilerNotFound name)
    | some selection => do
      modify selection.factory.onSelection
      Action.log .debug s!"selected compiler '{name}'"
      return selection

end Selection

/-- Remembers the first selection that succeeded. -/
structure Resolver (W : Type) where
  selected : Option (Selection W) := none

namespace Resolver

variable {W : Type}

/-- The remembered selection, or else a new one, which is remembered if it succeeds. -/
def getOrResolve (resolver : Resolver W) (requested : Option String)
    (candidates : List (CompilerFactory W)) : Action W (Selection W × Resolver W) :=
  match resolver.selected with
  | some selection => return (selection, resolver)
  | none => do
    let selection ← Selection.select requested candidates
    return (selection, ⟨some selection⟩)

end Resolver
end JitBridge
