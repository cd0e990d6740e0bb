import JitBridge.Panic

/-!
Sizes in bytes. A size is a 64-bit number; arithmetic on sizes panics where its result is none.
-/

namespace JitBridge.Size

/-- The first number that is no size. -/
def limit : Nat := UInt64.size

/-- A result, if it is a size. -/
def checked (operation : WordOperation) (result : Nat) : Except Panic Nat :=
  if result < limit then .ok result else .error (.overflow operation)

/-- The sum of two sizes. -/
def add (a b : Nat) : Except Panic Nat := checked .add (a + b)

/-- The product of two sizes. -/
def multiply (a b : Nat) : Except Panic Nat := checked .multiply (a * b)

theorem checked_eq_ok_iff {operation : WordOperation} {result n : Nat} :
    checked operation result = .ok n ↔ result = n ∧ n < limit := by
  unfold checked
  split
  case isTrue fits =>
    constructor
    · intro same
      cases same
      exact ⟨rfl, fits⟩
    · rintro ⟨rfl, _⟩
      rfl
  case isFalse large =>
    constructor
    · intro same
      cases same
    · rintro ⟨rfl, fits⟩
      exact absurd fits large

/-- A product is a size if it stays below the limit. -/
theorem multiply_eq_ok_iff {a b n : Nat} : multiply a b = .ok n ↔ a * b = n ∧ n < limit :=
  checked_eq_ok_iff

end JitBridge.Size
