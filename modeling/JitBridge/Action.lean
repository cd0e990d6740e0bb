import JitBridge.Fault
import JitBridge.Output

/-!
An action reads and changes a state, writes, and answers or ends with a fault. State and writing
survive a fault: what was done before it stays done. The `runFrom` lemmas say what each way of
building an action does to a state; with them an action unfolds to what it writes and leaves. Where
only the answer and the state count, `answer_bind_of_ok` and `answer_bind_of_error` take a sequence
of actions apart, one action at a time.
-/

namespace JitBridge

/-- A step over a state `σ` that may end with a fault. -/
abbrev Action (σ α : Type) : Type := ExceptT Fault (StateT σ Emit) α

namespace Action

variable {σ τ α β : Type}

/-- Runs the action from a state: its answer or fault, the state it leaves, and what it wrote. -/
def runFrom (x : Action σ α) (s : σ) : Emit (Except Fault α × σ) :=
  StateT.run (ExceptT.run x) s

/-- The action that runs as `f` says. -/
def of (f : σ → Emit (Except Fault α × σ)) : Action σ α :=
  ExceptT.mk f

@[simp] theorem runFrom_of (f : σ → Emit (Except Fault α × σ)) (s : σ) : (of f).runFrom s = f s :=
  rfl

/-- Ends with an error. -/
def fail (error : Error) : Action σ α := throw (.error error)

/-- Ends with a panic. -/
def panic (panic : Panic) : Action σ α := throw (.panic panic)

def log (severity : Severity) (text : String) : Action σ Unit :=
  of fun s => do Emit.log severity text; pure (.ok (), s)

def print (text : String) : Action σ Unit :=
  of fun s => do Emit.print text; pure (.ok (), s)

/-- Runs an action and answers with how it ended; never faults itself. -/
def attempt (x : Action σ α) : Action σ (Except Fault α) :=
  of fun s => do
    let (result, s') ← x.runFrom s
    pure (.ok result, s')

/-- An answer or a fault, as an action. -/
def ofExcept (result : Except Fault α) : Action σ α :=
  of fun s => pure (result, s)

/-- Something that only writes, as an action. -/
def ofEmit (x : Emit α) : Action σ α :=
  of fun s => do let a ← x; pure (.ok a, s)

/-- Runs an action on a part of the state. -/
def zoom (get : σ → τ) (set : τ → σ → σ) (x : Action τ α) : Action σ α :=
  of fun s => do
    let (result, t) ← x.runFrom (get s)
    pure (result, set t s)

/-! ### What an action does to a state -/

@[simp] theorem runFrom_pure (a : α) (s : σ) :
    (pure a : Action σ α).runFrom s = pure (.ok a, s) := rfl

/-- The second action runs only after an answer, from the state that the first one leaves. -/
theorem runFrom_bind (x : Action σ α) (f : α → Action σ β) (s : σ) :
    (x >>= f).runFrom s = x.runFrom s >>= fun
      | (.ok a, s') => (f a).runFrom s'
      | (.error fault, s') => pure (.error fault, s') := by
  refine Emit.ext ?_ ?_ <;>
  · simp only [runFrom, ExceptT.run, bind, ExceptT.bind, ExceptT.mk, StateT.bind, StateT.run,
      ExceptT.bindCont]
    split <;> rename_i found
    · simp only [found]
    · simp only [found]
      rfl

@[simp] theorem runFrom_get (s : σ) :
    (MonadState.get : Action σ σ).runFrom s = pure (.ok s, s) := rfl

@[simp] theorem runFrom_modify (f : σ → σ) (s : σ) :
    (modify f : Action σ Unit).runFrom s = pure (.ok (), f s) := rfl

@[simp] theorem runFrom_fail (error : Error) (s : σ) :
    (fail error : Action σ α).runFrom s = pure (.error (.error error), s) := rfl

@[simp] theorem runFrom_panic (p : Panic) (s : σ) :
    (panic p : Action σ α).runFrom s = pure (.error (.panic p), s) := rfl

@[simp] theorem runFrom_ofExcept (result : Except Fault α) (s : σ) :
    (ofExcept result).runFrom s = pure (result, s) := rfl

/-- An attempt leaves and writes what the action does. -/
@[simp] theorem runFrom_attempt (x : Action σ α) (s : σ) :
    (attempt x).runFrom s = (fun (result, s') => (.ok result, s')) <$> x.runFrom s := rfl

/-! ### Answers and states alone -/

theorem answer_get (s : σ) :
    ((MonadState.get : Action σ σ).runFrom s).answer = (.ok s, s) := rfl

theorem answer_log (severity : Severity) (text : String) (s : σ) :
    ((log severity text).runFrom s).answer = (.ok (), s) := rfl

theorem answer_ofEmit (x : Emit α) (s : σ) :
    ((ofEmit x).runFrom s).answer = (.ok x.answer, s) := rfl

theorem answer_bind_of_ok {x : Action σ α} {f : α → Action σ β} {s s' : σ} {a : α}
    (first : (x.runFrom s).answer = (.ok a, s')) :
    ((x >>= f).runFrom s).answer = ((f a).runFrom s').answer := by
  rw [runFrom_bind, Emit.answer_bind, first]

theorem answer_bind_of_error {x : Action σ α} {f : α → Action σ β} {s s' : σ} {fault : Fault}
    (first : (x.runFrom s).answer = (.error fault, s')) :
    ((x >>= f).runFrom s).answer = (.error fault, s') := by
  rw [runFrom_bind, Emit.answer_bind, first]
  rfl

theorem answer_attempt {x : Action σ α} {s s' : σ} {outcome : Except Fault α}
    (ended : (x.runFrom s).answer = (outcome, s')) :
    ((attempt x).runFrom s).answer = (.ok outcome, s') := by
  show ((.ok (x.runFrom s).answer.1, (x.runFrom s).answer.2) : Except Fault _ × σ) = _
  rw [ended]

end Action
end JitBridge
