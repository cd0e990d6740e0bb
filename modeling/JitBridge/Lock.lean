import JitBridge.Action

/-!
Locks between calls that neither overlap nor nest: whoever takes a lock finds it free, and it is
given back however the action that holds it ends. An action that panics leaves its lock poisoned.
The next one to take it is told so, but holds it all the same and may go on.
-/

namespace JitBridge

/-- A lock that nobody holds. -/
inductive Lock where
  | sound
  /-- Someone has panicked who held it. -/
  | poisoned
deriving DecidableEq, Repr

namespace Lock

variable {σ α : Type}

/-- What the holder of a lock has. -/
structure Guard where
deriving DecidableEq, Repr

/-- The warning that a lock is poisoned, with the guard. -/
structure Poison where
  guard : Guard
deriving DecidableEq, Repr

def take : Lock → Except Poison Guard
  | sound => .ok ⟨⟩
  | poisoned => .error ⟨⟨⟩⟩

/-- The lock when it is given back after its holder has ended. -/
def release (lock : Lock) : Except Fault α → Lock
  | .error (.panic _) => poisoned
  | _ => lock

/-- Runs an action that holds a lock of the state. The warning of a poisoned lock is passed over. -/
def holding (lock : σ → Lock) (setLock : Lock → σ → σ) (x : Guard → Action σ α) : Action σ α := do
  let guard := match (lock (← get)).take with
    | .ok guard => guard
    | .error poison => poison.guard
  let outcome ← Action.attempt (x guard)
  modify fun s => setLock ((lock s).release outcome) s
  Action.ofExcept outcome

/-- Only how an action ends matters to its lock, not what it gives. -/
theorem release_map {β : Type} (lock : Lock) (f : α → β) (outcome : Except Fault α) :
    lock.release (outcome.map f) = lock.release outcome := by
  rcases outcome with (_ | _) | _ <;> rfl

/-- A lock is poisoned by an action that panics, and stays so. -/
theorem release_eq_poisoned_iff {lock : Lock} {outcome : Except Fault α} :
    lock.release outcome = poisoned ↔ lock = poisoned ∨ ∃ p, outcome = .error (.panic p) := by
  rcases outcome with (_ | _) | _ <;> simp [release]

/-- An action ends under a lock as it does without, be the lock sound or poisoned. -/
theorem answer_holding {lock : σ → Lock} {setLock : Lock → σ → σ} {x : Guard → Action σ α}
    {s s' : σ} {outcome : Except Fault α}
    (ended : ∀ guard, ((x guard).runFrom s).answer = (outcome, s')) :
    ((holding lock setLock x).runFrom s).answer =
      (outcome, setLock ((lock s').release outcome) s') := by
  rw [holding, Action.answer_bind_of_ok (Action.answer_get s),
    Action.answer_bind_of_ok (Action.answer_attempt (ended _))]
  rfl

end Lock
end JitBridge
