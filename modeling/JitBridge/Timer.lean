import JitBridge.Action
import JitBridge.Text.Column

/-!
Scoped timing of startup steps. A timer logs when it starts and when it finishes, indented by the
number of timers running around it; a disabled timer does nothing. The time taken is written as `_`,
so what a run logs does not hang on a clock.
-/

namespace JitBridge

/-- A timer; one without label is disabled. -/
structure Timer where
  label : Option String
deriving DecidableEq, Repr

namespace Timer

/-- The record of a start or finish, indented by two blanks for each timer around it. -/
def record (depth : Nat) (text : String) : Emit Unit :=
  Emit.log .info (Text.blanks (2 * depth) ++ text)

def isEnabled (timer : Timer) : Bool := timer.label.isSome

/-- Starts a timer with `depth` timers around it; answers with it and the new depth. -/
def start (enabled : Bool) (label : String) (depth : Nat) : Emit (Timer × Nat) :=
  if enabled then do
    record depth s!"START: {label}"
    pure (⟨some label⟩, depth + 1)
  else pure (⟨none⟩, depth)

/-- Finishes a timer; answers with the new depth, which never goes below zero. -/
def finish (timer : Timer) (depth : Nat) : Emit Nat :=
  match timer.label with
  | some label => do
    record (depth - 1) s!"FINISH: {label} [_ ms]"
    pure (depth - 1)
  | none => pure depth

end Timer

/-- Timers started so far, each until it finishes, and the number of them that are running. -/
structure Timers where
  depth : Nat := 0
  started : List (Option Timer) := []
deriving DecidableEq, Repr

namespace Timers

/-- Starts another timer; answers whether it is enabled. -/
def start (timers : Timers) (enabled : Bool) (label : String) : Emit (Bool × Timers) := do
  let (timer, depth) ← Timer.start enabled label timers.depth
  pure (timer.isEnabled, ⟨depth, timers.started ++ [some timer]⟩)

/-- Finishes the timer that was started at a place; one that has finished stays finished. -/
def finish (timers : Timers) (place : Nat) : Emit Timers :=
  match timers.started[place]? with
  | some (some timer) => do
    let depth ← timer.finish timers.depth
    pure ⟨depth, timers.started.set place none⟩
  | _ => pure timers

/-- Finishes all timers in the order in which they were started. -/
def finishAll (timers : Timers) : Emit Timers :=
  (List.range timers.started.length).foldlM finish timers

end Timers
end JitBridge
