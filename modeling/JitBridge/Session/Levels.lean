import JitBridge.Session.Basic

/-!
Adjustment of compilation levels by the chosen factory, in the VM's numbers.
-/

namespace JitBridge.Session

variable {W : Type}

/-- The VM's number for the adjustment policy of the chosen factory. -/
def adjustmentNumber (session : Session W) : Int32 := session.adjustment.toVm session.vm

/-- The level for a method, given the one the VM has chosen; panics if that is no level. -/
def adjustLevel (session : Session W) (holder name signature : String) (onStackReplacement : Bool)
    (level : Int32) : Except Panic Int32 :=
  match Level.ofVm? session.vm level with
  | none => .error (.unknownLevel level)
  | some current =>
    match session.selection.factory.hooks with
    | some hooks =>
      .ok ((hooks.adjust holder name signature onStackReplacement current).toVm session.vm)
    | none => .ok level

end JitBridge.Session
