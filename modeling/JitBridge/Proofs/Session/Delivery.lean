import JitBridge.Proofs.Session.Contacts

/-!
Delivery of events to the listeners of a session. The listeners are looked for once, and every event
is told to them in the order of registration up to the first that fails (`Told`). An event is told
so whatever was told before and whoever failed then: `Session.told_up_to_first_failure`.
-/

namespace JitBridge.Session

variable {W : Type} (session : Session W)

/-- No call changes which listeners there are. -/
theorem audience_call (s : State W) (call : SessionCall) :
    session.audience (session.call s call).2 = session.audience s := by
  cases tells : s.notice? call with
  | some notice =>
    rw [session.call_of_notice s tells]
    rfl
  | none =>
    cases call with
    | invalidate handle =>
      rw [session.call_invalidate]
      rfl
    | attach executor => rfl
    | compile request =>
      obtain ⟨⟨statistics, left⟩, -⟩ := session.call_compile s request
      rw [left]
      rfl
    | prepare =>
      rw [Session.call, perform, answer_compiler]
      rfl
    | _ => cases tells

/-- After any run the listeners are the registered ones. -/
theorem audience_afterCalls (world : W) (calls : List SessionCall) :
    session.audience (session.afterCalls (session.initial world) calls) =
      session.services.listeners := by
  suffices kept : ∀ s : State W, session.audience (session.afterCalls s calls) =
      session.audience s from kept _
  induction calls with
  | nil => exact fun s => rfl
  | cons call calls ih => exact fun s => (ih _).trans (session.audience_call s call)

/-- After any run, a call that tells an event tells it to the listeners in the order of
registration, up to the first that fails, and asks nothing else of the host program. It ends with
that listener's fault, or answers if no listener fails. -/
theorem told_up_to_first_failure (world : W) (before : List SessionCall) (call : SessionCall)
    (notice : Notice)
    (tells : (session.afterCalls (session.initial world) before).notice? call = some notice) :
    let s := session.afterCalls (session.initial world) before
    ∃ told outcome,
      session.contacts world (before ++ [call]) = session.contacts world before ++ told ∧
        Told notice 0 session.services.listeners.length told outcome ∧
        (session.call s call).1 = outcome.map fun _ => s.answerTo call := by
  intro s
  obtain ⟨told, outcome, asks, heard, ended⟩ := session.exists_told s tells
  rw [session.audience_afterCalls] at heard
  exact ⟨told, outcome, contacts_append asks, heard, ended⟩

/-- The second of three listeners fails when code is installed. The third is not told that, but the
shutdown after it is told to all three. -/
theorem told_up_to_second_listener :
    let full : Fault := .error (.illegalState "full")
    let plan : Plan Unit := {
      services := { Services.builtin .bytewise with
        listeners := [{}, { installed := fun _ _ _ => throw full }, {}] } }
    let install : SessionCall := .install ⟨"demo", [0xC3], 16, none⟩
    ∃ session notice, (plan.start.runFrom { world := () }).answer.1 = .ok (.running session) ∧
      (session.initial ()).notice? install = some notice ∧
      Told notice 0 3 (session.contacts () [install]) (.error full) ∧
      (session.call (session.initial ()) install).1 = .error full ∧
      session.contacts () ([install] ++ [.shutdown]) = session.contacts () [install] ++
        [.told 0 .shutdown (.ok ()), .told 1 .shutdown (.ok ()), .told 2 .shutdown (.ok ())] := by
  intro full plan install
  have selects : plan.Selects () ⟨none, .stub⟩ () := .stub rfl
  obtain ⟨backend, started⟩ := Plan.exists_starts rfl rfl rfl rfl selects
  let session := plan.session backend (Plan.registryOf backend) ⟨none, .stub⟩
  have failed : (session.call (session.initial ()) install).1 = .error full := rfl
  have stopped :
      (session.call (session.afterCalls (session.initial ()) [install]) .shutdown).1 =
        .ok .done := rfl
  obtain ⟨told, outcome, contacts, heard, ended⟩ :=
    session.told_up_to_first_failure () [] install _ rfl
  obtain rfl : session.contacts () [install] = told := contacts
  obtain ⟨later, outcome', contacts', heard', ended'⟩ :=
    session.told_up_to_first_failure () [install] .shutdown _ rfl
  cases outcome with
  | ok => cases failed.symm.trans ended
  | error fault =>
    cases failed.symm.trans ended
    cases outcome' with
    | error fault => cases stopped.symm.trans ended'
    | ok =>
      cases heard'
      exact ⟨session, _, congrArg Prod.fst started, rfl, heard, failed, contacts'⟩

end JitBridge.Session
