import JitBridge.Convention.Calls
import JitBridge.Proofs.Convention.Passable

/-!
An assigner that goes on after a panic. `Assigner.answer_assignNext` says that assigning in place
ends as `Assigner.argument` does: what a panic interrupts has changed nothing yet. So of a run of
calls only those count that assign a parameter (`Assigner.transcript_assigning`), and the locations
that they get are those of an assigner that is given their kinds at once
(`Assigner.arguments_assigned`).

`Assigner.panics_leave_no_trace` puts this together for any run.
-/

namespace JitBridge

namespace AssignerCall

/-- How a call ended. -/
abbrev Answer : Type := Except Fault (Option Location)

/-- The parameter that a call assigned, with its location; none for a call that panicked, and for
one that asked for a result. -/
def assignment? : AssignerCall × Answer → Option (Kind × Location)
  | (.argument kind, .ok (some location)) => some (kind, location)
  | _ => none

/-- Whether a call assigned a parameter. -/
def assigns (entry : AssignerCall × Answer) : Bool := (assignment? entry).isSome

end AssignerCall

open AssignerCall

namespace Assigner

/-! ### Assigning in place -/

section

variable (a : Assigner) {kind : Kind} {lane : Lane}

theorem argument_of_register (travels : kind.lane = some lane) {register : Register}
    (found : (a.pools.arguments lane)[a.used lane]? = some register) :
    a.argument kind = .ok (.register register kind.widened, a.advance lane) := by
  simp only [argument, Kind.lane_widened, travels, found]

theorem argument_of_spill (travels : kind.lane = some lane)
    (missing : (a.pools.arguments lane)[a.used lane]? = none) :
    a.argument kind = (Size.add a.stack (a.pools.slotSize kind.widened)).map
      fun stack => (.stack (a.nextSlot kind.widened), { a with stack }) := by
  have size : (a.nextSlot kind.widened).size = a.pools.slotSize kind.widened := rfl
  simp only [argument, Kind.lane_widened, travels, missing, size]
  cases Size.add a.stack (a.pools.slotSize kind.widened) with
  | ok stack => rfl
  | error p => rfl

theorem answer_takeRegister (lane : Lane) :
    ((takeRegister lane).runFrom a).answer =
      match (a.pools.arguments lane)[a.used lane]? with
      | some register => (.ok (some register), a.advance lane)
      | none => (.ok none, a) := by
  unfold takeRegister
  rw [Action.answer_bind_of_ok (Action.answer_get a)]
  cases (a.pools.arguments lane)[a.used lane]? with
  | some register => rfl
  | none => rfl

theorem answer_takeSlot (kind : Kind) :
    ((takeSlot kind).runFrom a).answer =
      match Size.add a.stack (a.pools.slotSize kind) with
      | .ok stack => (.ok (a.nextSlot kind), { a with stack })
      | .error p => (.error (.panic p), a) := by
  have size : (a.nextSlot kind).size = a.pools.slotSize kind := rfl
  unfold takeSlot
  rw [Action.answer_bind_of_ok (Action.answer_get a)]
  dsimp only
  rw [size]
  cases Size.add a.stack (a.pools.slotSize kind) with
  | ok stack => rfl
  | error p => rfl

/-- Assigning in place ends as assigning does, and a panic leaves the assigner as it was: it comes
before the first change. -/
theorem answer_assignNext (kind : Kind) :
    ((assignNext kind).runFrom a).answer =
      match a.argument kind with
      | .ok (location, next) => (.ok location, next)
      | .error p => (.error (.panic p), a) := by
  unfold assignNext
  cases travels : kind.lane with
  | none =>
    have stopped : ((nextRegister kind.widened).runFrom a).answer =
        (.error (.panic (.noLane kind)), a) := by
      rw [nextRegister, Kind.lane_widened, travels, Kind.widened_of_no_lane travels]
      rfl
    rw [Action.answer_bind_of_error stopped, argument_of_no_lane a travels]
  | some lane =>
    have asked : nextRegister kind.widened = takeRegister lane := by
      rw [nextRegister, Kind.lane_widened, travels]
    have taken := a.answer_takeRegister lane
    rw [asked]
    cases found : (a.pools.arguments lane)[a.used lane]? with
    | some register =>
      rw [found] at taken
      rw [Action.answer_bind_of_ok taken, a.argument_of_register travels found]
      rfl
    | none =>
      rw [found] at taken
      rw [Action.answer_bind_of_ok taken, settle, a.argument_of_spill travels found]
      have slot := a.answer_takeSlot kind.widened
      cases fits : Size.add a.stack (a.pools.slotSize kind.widened) with
      | ok stack =>
        rw [fits] at slot
        rw [Action.answer_bind_of_ok slot]
        rfl
      | error p =>
        rw [fits] at slot
        rw [Action.answer_bind_of_error slot]
        rfl

end

/-! ### One call -/

section

variable (a : Assigner)

theorem call_argument (kind : Kind) :
    a.call (.argument kind) =
      match a.argument kind with
      | .ok (location, next) => (.ok (some location), next)
      | .error p => (.error (.panic p), a) := by
  have answer := a.answer_assignNext kind
  rw [call, perform]
  cases assigned : a.argument kind with
  | ok found =>
    rw [assigned] at answer
    rw [Action.answer_bind_of_ok answer]
    rfl
  | error p =>
    rw [assigned] at answer
    rw [Action.answer_bind_of_error answer]

theorem call_result (kind : Kind) : a.call (.result kind) = (.ok (a.result kind), a) := rfl

/-- A call assigns a parameter, or it changes nothing. -/
theorem assigns_or_leaves (call : AssignerCall) :
    (∃ kind location next, call = .argument kind ∧ a.argument kind = .ok (location, next) ∧
      a.call call = (.ok (some location), next)) ∨
    assignment? (call, (a.call call).1) = none ∧ (a.call call).2 = a := by
  cases call with
  | result kind => exact .inr ⟨rfl, rfl⟩
  | argument kind =>
    have called := a.call_argument kind
    cases assigned : a.argument kind with
    | ok found =>
      rw [assigned] at called
      exact .inl ⟨kind, found.1, found.2, rfl, assigned, called⟩
    | error p =>
      rw [assigned] at called
      rw [called]
      exact .inr ⟨rfl, rfl⟩

/-- A parameter with a lane is refused only if no register of the lane is left and the slot would
end beyond the last size. -/
theorem call_argument_fails_iff {kind : Kind} {lane : Lane} (travels : kind.lane = some lane) :
    (∃ fault, (a.call (.argument kind)).1 = .error fault) ↔
      (a.pools.arguments lane).length ≤ a.used lane ∧
        Size.limit ≤ a.stack + a.pools.slotSize kind.widened := by
  rw [call_argument]
  cases found : (a.pools.arguments lane)[a.used lane]? with
  | some register =>
    obtain ⟨within, -⟩ := List.getElem?_eq_some_iff.mp found
    rw [a.argument_of_register travels found]
    constructor
    · rintro ⟨fault, ended⟩
      cases ended
    · rintro ⟨beyond, -⟩
      omega
  | none =>
    have beyond := List.getElem?_eq_none_iff.mp found
    rw [a.argument_of_spill travels found, Size.add, Size.checked]
    by_cases fits : a.stack + a.pools.slotSize kind.widened < Size.limit
    · rw [if_pos fits]
      constructor
      · rintro ⟨fault, ended⟩
        cases ended
      · rintro ⟨-, full⟩
        omega
    · rw [if_neg fits]
      exact ⟨fun _ => ⟨beyond, Nat.le_of_not_lt fits⟩, fun _ => ⟨_, rfl⟩⟩

/-- No call takes a register back. -/
theorem used_le_call (call : AssignerCall) (lane : Lane) :
    a.used lane ≤ (a.call call).2.used lane := by
  rcases a.assigns_or_leaves call with ⟨kind, location, next, -, assigned, called⟩ | ⟨-, left⟩
  · rw [called]
    obtain ⟨own, travels⟩ : ∃ own, kind.lane = some own := by
      cases travels : kind.lane with
      | none =>
        rw [a.argument_of_no_lane travels] at assigned
        cases assigned
      | some own => exact ⟨own, rfl⟩
    cases found : (a.pools.arguments own)[a.used own]? with
    | some register =>
      rw [a.argument_of_register travels found] at assigned
      cases assigned
      dsimp only
      rw [used_advance]
      split <;> omega
    | none =>
      rw [a.argument_of_spill travels found] at assigned
      cases fits : Size.add a.stack (a.pools.slotSize kind.widened) with
      | error p =>
        rw [fits] at assigned
        cases assigned
      | ok stack =>
        rw [fits] at assigned
        cases assigned
        cases lane <;> exact Nat.le_refl _
  · rw [left]

end

/-! ### Runs -/

/-- The assigner that a run leaves. -/
def afterCalls (a : Assigner) : List AssignerCall → Assigner
  | [] => a
  | call :: calls => (a.call call).2.afterCalls calls

/-- The calls of a run, and how each of them ended. -/
def transcript (a : Assigner) : List AssignerCall → List (AssignerCall × Answer)
  | [] => []
  | call :: calls => (call, (a.call call).1) :: (a.call call).2.transcript calls

/-- The calls that assign a parameter end as they do without the others, and leave the same. -/
theorem transcript_assigning (a : Assigner) (calls : List AssignerCall) :
    let assigning := (a.transcript calls).filter assigns
    a.transcript (assigning.map (·.1)) = assigning ∧
      a.afterCalls (assigning.map (·.1)) = a.afterCalls calls := by
  induction calls generalizing a with
  | nil => exact ⟨rfl, rfl⟩
  | cons call calls ih =>
    rcases a.assigns_or_leaves call with
      ⟨kind, location, next, rfl, -, called⟩ | ⟨assignsNone, left⟩
    · obtain ⟨same, left⟩ := ih next
      have counts : assigns (.argument kind, .ok (some location)) = true := rfl
      simp only [transcript, called, List.filter_cons, counts, if_true, List.map_cons, afterCalls]
      exact ⟨congrArg _ same, left⟩
    · have passed : assigns (call, (a.call call).1) = false := by rw [assigns, assignsNone]; rfl
      simp only [transcript, left, List.filter_cons, passed, Bool.false_eq_true, if_false,
        afterCalls]
      exact ih a

/-- The parameters that a run assigns get what the assigner gives to their kinds at once. -/
theorem arguments_assigned (a : Assigner) (calls : List AssignerCall) :
    let assigned := (a.transcript calls).filterMap assignment?
    a.arguments (assigned.map (·.1)) = .ok (assigned.map (·.2), a.afterCalls calls) := by
  induction calls generalizing a with
  | nil => rfl
  | cons call calls ih =>
    rcases a.assigns_or_leaves call with
      ⟨kind, location, next, rfl, assigned, called⟩ | ⟨assignsNone, left⟩
    · have counts : assignment? (.argument kind, .ok (some location)) = some (kind, location) := rfl
      simp only [transcript, called, List.filterMap_cons, counts, List.map_cons, arguments,
        assigned, ih next, afterCalls]
    · simp only [transcript, left, List.filterMap_cons, assignsNone, afterCalls]
      exact ih a

/-- What was assigned could be passed. -/
theorem passable_of_arguments {a left : Assigner} {kinds : List Kind} {locations : List Location}
    (assigned : a.arguments kinds = .ok (locations, left)) : ∀ kind ∈ kinds, kind.lane.isSome := by
  by_contra outside
  obtain ⟨before, kind, after, rfl, -, missing⟩ := Kind.exists_first_without_lane outside
  rw [arguments_append] at assigned
  cases first : a.arguments before with
  | error p =>
    rw [first] at assigned
    cases assigned
  | ok found =>
    simp only [first, arguments, argument_of_no_lane _ missing] at assigned
    cases assigned

/-- After any run the assigner is as far as the kinds that it assigned have brought it. -/
theorem afterCalls_start (pools : Pools) (callType : CallType) (calls : List AssignerCall) :
    (start pools callType).afterCalls calls =
      after pools callType
        ((((start pools callType).transcript calls).filterMap assignment?).map (·.1)) := by
  have together := (start pools callType).arguments_assigned calls
  have walk := arguments_after pools callType (passable_of_arguments together) []
  rw [after_nil, together, List.nil_append] at walk
  split at walk
  · rw [Except.ok.injEq, Prod.mk.injEq] at walk
    exact walk.2
  · cases walk

/-- On one assigner, let parameters be assigned and results be asked for in any order, and let every
panic be caught. A panic, which comes with every parameter without lane and otherwise only where a
slot would end beyond the last size, and a call for a result leave the assigner as it was, and the
result is where it was at the start. So the calls that assign a parameter end as they do without the
others. The registers used stay within the pools and never become fewer, the argument area never
ends inside the home space, and the locations and the state are those that the kinds get at once. -/
theorem panics_leave_no_trace (pools : Pools) (callType : CallType) (calls : List AssignerCall) :
    let first := start pools callType
    let last := first.afterCalls calls
    let assigning := (first.transcript calls).filter assigns
    let assigned := (first.transcript calls).filterMap assignment?
    (∀ kind, last.call (.result kind) = (.ok (first.result kind), last)) ∧
    (∀ kind, kind = .void ∨ kind = .illegal →
      last.call (.argument kind) = (.error (.panic (.noLane kind)), last)) ∧
    (∀ kind lane, kind.lane = some lane →
      ((∃ fault, (last.call (.argument kind)).1 = .error fault) ↔
        (pools.arguments lane).length ≤ last.used lane ∧
          Size.limit ≤ last.stack + pools.slotSize kind.widened)) ∧
    (∀ call fault, (last.call call).1 = .error fault → (last.call call).2 = last) ∧
    first.transcript (assigning.map (·.1)) = assigning ∧
    first.afterCalls (assigning.map (·.1)) = last ∧
    (∀ lane, last.used lane ≤ (pools.arguments lane).length ∧
      ∀ call, last.used lane ≤ (last.call call).2.used lane) ∧
    pools.homeSpace ≤ last.stack ∧
    first.arguments (assigned.map (·.1)) = .ok (assigned.map (·.2), last) ∧
    ∀ returnKind, pools.assign callType returnKind (assigned.map (·.1)) =
      .ok ⟨last.stack, first.result returnKind, assigned.map (·.2)⟩ := by
  intro first last assigning assigned
  have reached : last = after pools callType (assigned.map (·.1)) :=
    afterCalls_start pools callType calls
  have together : first.arguments (assigned.map (·.1)) = .ok (assigned.map (·.2), last) :=
    first.arguments_assigned calls
  obtain ⟨alone, left⟩ := first.transcript_assigning calls
  refine ⟨?result, ?noLane, ?full, ?leaves, alone, left, ?used, ?home, together, ?convention⟩
  case result =>
    intro kind
    rw [call_result, reached]
    rfl
  case noLane =>
    intro kind without
    rw [call_argument, last.argument_of_no_lane (Kind.lane_eq_none_iff.mpr without)]
  case full =>
    intro kind lane travels
    rw [last.call_argument_fails_iff travels, reached]
    rfl
  case leaves =>
    intro call fault ended
    rcases last.assigns_or_leaves call with ⟨kind, location, next, -, -, called⟩ | ⟨-, left⟩
    · rw [called] at ended
      cases ended
    · exact left
  case used =>
    intro lane
    refine ⟨?_, fun call => last.used_le_call call lane⟩
    rw [reached, used_after]
    exact Nat.min_le_right _ _
  case home =>
    rw [reached]
    exact Nat.le_add_right _ _
  case convention =>
    intro returnKind
    rw [Pools.assign, together, reached]
    rfl

/-- Two panics and a result between three parameters, of which the second spills. -/
theorem panics_leave_no_trace_of_two_panics :
    let pools : Pools :=
      ⟨[.general "g0" 0 0], [.floating "f0" 1 0], .general "g0" 0 0, .floating "f0" 1 0, 8, 0⟩
    let calls : List AssignerCall := [.argument .int, .argument .void, .result .long,
      .argument .long, .argument .illegal, .argument .float]
    let last := (start pools .managedCall).afterCalls calls
    last.call (.argument .void) = (.error (.panic (.noLane .void)), last) ∧
      (last.used .integer, last.used .float, last.stack) = (1, 1, 8) ∧
      pools.assign .managedCall .int [.int, .long, .float] = .ok ⟨last.stack,
        some (.register (.general "g0" 0 0) .int),
        [.register (.general "g0" 0 0) .int, .stack ⟨0, 8, .long, false⟩,
          .register (.floating "f0" 1 0) .float]⟩ := by
  intro pools calls last
  obtain ⟨-, noLane, -, -, -, -, -, -, -, convention⟩ :=
    panics_leave_no_trace pools .managedCall calls
  exact ⟨noLane .void (.inl rfl), rfl, convention .int⟩

end Assigner
end JitBridge
