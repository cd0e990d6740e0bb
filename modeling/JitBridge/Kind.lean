/-!
Kinds of managed values, and the lane in which a value of a kind travels across a call. Every kind
that can be passed or returned has exactly one lane; `void` and `illegal` have none.
-/

namespace JitBridge

/-- The category of a managed value. -/
inductive Kind where
  | boolean | byte | short | char | int | long | float | double | object | void | illegal
deriving DecidableEq, Repr, Inhabited

/-- The register file that carries a value: integers and references, or floating point values. -/
inductive Lane where
  | integer | float
deriving DecidableEq, Repr

namespace Kind

/-- All kinds, in order of declaration. -/
def all : List Kind :=
  [boolean, byte, short, char, int, long, float, double, object, void, illegal]

/-- The kind of a value once it sits in a register or a stack slot: kinds below `int` widen. -/
def widened : Kind → Kind
  | boolean | byte | short | char => int
  | k => k

/-- Natural size in bytes; a reference is not compressed. -/
def size : Kind → Nat
  | boolean | byte => 1
  | short | char => 2
  | int | float => 4
  | long | double | object => 8
  | void | illegal => 0

def lane : Kind → Option Lane
  | boolean | byte | short | char | int | long | object => some .integer
  | float | double => some .float
  | void | illegal => none

/-- Primitive kinds; `void` counts as one. -/
def isPrimitive : Kind → Bool
  | object | illegal => false
  | _ => true

/-- The character that stands for the kind in printed locations and built descriptors. -/
def typeChar : Kind → Char
  | boolean => 'Z'
  | byte => 'B'
  | short => 'S'
  | char => 'C'
  | int => 'I'
  | long => 'J'
  | float => 'F'
  | double => 'D'
  | object => 'A'
  | void => 'V'
  | illegal => '-'

/-- Reads back the character of a primitive kind or `void`. -/
def ofTypeChar? : Char → Option Kind
  | 'Z' => some boolean
  | 'B' => some byte
  | 'S' => some short
  | 'C' => some char
  | 'I' => some int
  | 'J' => some long
  | 'F' => some float
  | 'D' => some double
  | 'V' => some void
  | _ => none

/-- The name used in source text. -/
def sourceName : Kind → String
  | boolean => "boolean"
  | byte => "byte"
  | short => "short"
  | char => "char"
  | int => "int"
  | long => "long"
  | float => "float"
  | double => "double"
  | object => "Object"
  | void => "void"
  | illegal => "illegal"

/-- The name used in messages. -/
def label : Kind → String
  | boolean => "Boolean"
  | byte => "Byte"
  | short => "Short"
  | char => "Char"
  | int => "Int"
  | long => "Long"
  | float => "Float"
  | double => "Double"
  | object => "Object"
  | void => "Void"
  | illegal => "Illegal"

theorem mem_all (k : Kind) : k ∈ all := by cases k <;> decide

@[simp] theorem lane_widened (k : Kind) : k.widened.lane = k.lane := by cases k <;> rfl

/-- Only `void` and `illegal` have no lane. -/
theorem lane_isSome_iff {k : Kind} : k.lane.isSome ↔ k ≠ .void ∧ k ≠ .illegal := by
  cases k <;> simp [lane]

theorem lane_eq_none_iff {k : Kind} : k.lane = none ↔ k = .void ∨ k = .illegal := by
  cases k <;> simp [lane]

/-- Among kinds that do not all have a lane, one without lane comes first. -/
theorem exists_first_without_lane {kinds : List Kind}
    (outside : ¬ ∀ k ∈ kinds, k.lane.isSome) :
    ∃ before k after, kinds = before ++ k :: after ∧ (∀ e ∈ before, e.lane.isSome) ∧
      k.lane = none := by
  induction kinds with
  | nil => exact absurd nofun outside
  | cons first kinds ih =>
    cases travels : first.lane with
    | none => exact ⟨[], first, kinds, rfl, nofun, travels⟩
    | some l =>
      have lane : first.lane.isSome := by rw [travels]; rfl
      have rest : ¬ ∀ k ∈ kinds, k.lane.isSome :=
        fun all => outside (List.forall_mem_cons.mpr ⟨lane, all⟩)
      obtain ⟨before, k, after, rfl, lanes, missing⟩ := ih rest
      exact ⟨first :: before, k, after, rfl, List.forall_mem_cons.mpr ⟨lane, lanes⟩, missing⟩

end Kind
end JitBridge
