/-!
What a run writes besides its answer: log records and text on standard output, in order. `Emit α` is
an answer together with what was written on the way to it; it is a lawful monad, so a sequence of
steps writes the concatenation of what the steps write.
-/

namespace JitBridge

/-- How serious a log record is. -/
inductive Severity where
  | error | warn | info | debug
deriving DecidableEq, Repr

/-- The word that opens a record of this severity. -/
def Severity.word : Severity → String
  | .error => "ERROR"
  | .warn => "WARN"
  | .info => "INFO"
  | .debug => "DEBUG"

/-- One thing written: a log record, or text for standard output. -/
inductive Output where
  | record (severity : Severity) (text : String)
  | print (text : String)
deriving DecidableEq, Repr

/-- The log records among what was written. -/
def Output.records (written : List Output) : List (Severity × String) :=
  written.filterMap fun
    | .record severity text => some (severity, text)
    | .print _ => none

/-- All that was printed, as one text. -/
def Output.printed (written : List Output) : String :=
  String.join (written.filterMap fun
    | .record _ _ => none
    | .print text => some text)

/-- An answer and what was written on the way to it, oldest first. -/
structure Emit (α : Type) where
  answer : α
  written : List Output

namespace Emit

instance : Monad Emit where
  pure a := ⟨a, []⟩
  bind x f := ⟨(f x.answer).answer, x.written ++ (f x.answer).written⟩

variable {α β : Type}

@[simp] theorem answer_pure (a : α) : (pure a : Emit α).answer = a := rfl

@[simp] theorem written_pure (a : α) : (pure a : Emit α).written = [] := rfl

@[simp] theorem answer_bind (x : Emit α) (f : α → Emit β) :
    (x >>= f).answer = (f x.answer).answer := rfl

@[simp] theorem written_bind (x : Emit α) (f : α → Emit β) :
    (x >>= f).written = x.written ++ (f x.answer).written := rfl

theorem ext {x y : Emit α} (ha : x.answer = y.answer) (hw : x.written = y.written) : x = y := by
  cases x; cases y; simp_all

instance : LawfulMonad Emit :=
  LawfulMonad.mk' Emit (fun _ => ext rfl (List.append_nil _)) (fun _ _ => rfl)
    (fun _ _ _ => ext rfl (List.append_assoc _ _ _))

/-- Writes a log record. -/
def log (severity : Severity) (text : String) : Emit Unit :=
  ⟨(), [.record severity text]⟩

/-- Writes text to standard output. -/
def print (text : String) : Emit Unit :=
  ⟨(), [.print text]⟩

end Emit
end JitBridge
