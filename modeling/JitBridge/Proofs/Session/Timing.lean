import JitBridge.Proofs.Session.Startup

/-!
Timers count each other and bracket what is written while they run.

Timers may finish in any order. Which of them are unfinished is said of the calls alone
(`TimerCall.unfinished`), and `Timers.Tracks` is the invariant that ties it to the depth. Timers
that finish in the reverse order of their starts write brackets (`Bracketed`); a run is followed
with the brackets that are still open (`Opened`).

A startup is compared with its stages without timers, `Plan.untimed`. No stage looks at the depth
(`Plan.Quiet`), so a timer around it adds its two records and nothing else (`Plan.Brackets`).
-/

namespace JitBridge

/-! ### What is written -/

namespace Timer

/-- A record whose text stands behind two blanks for each of `depth` timers. -/
def indented (depth : Nat) (text : String) : Output :=
  .record .info (String.ofList (List.replicate (2 * depth) ' ') ++ text)

/-- What an enabled timer writes when it starts with `depth` timers around it. -/
def startRecord (depth : Nat) (label : String) : Output := indented depth ("START: " ++ label)

/-- What an enabled timer writes when it finishes with `depth` timers around it. -/
def finishRecord (depth : Nat) (label : String) : Output :=
  indented depth ("FINISH: " ++ label ++ " [_ ms]")

end Timer

/-- The records of timers with these labels stand as brackets around what others write, the outer
ones at `depth`: each of them finishes with the label and at the depth of its start. -/
inductive Bracketed : Nat → List String → List Output → List Output → Prop
  | nil {depth : Nat} : Bracketed depth [] [] []
  | other {depth : Nat} {labels : List String} {others written : List Output} (output : Output)
      (rest : Bracketed depth labels others written) :
      Bracketed depth labels (output :: others) (output :: written)
  | timer {depth : Nat} {inner labels : List String} {within others inside written : List Output}
      (label : String) (body : Bracketed (depth + 1) inner within inside)
      (rest : Bracketed depth labels others written) :
      Bracketed depth (label :: inner ++ labels) (within ++ others)
        (Timer.startRecord depth label :: inside ++ Timer.finishRecord depth label :: written)

namespace Bracketed

variable {depth : Nat} {labels more : List String} {others others' written written' : List Output}

theorem append (first : Bracketed depth labels others written)
    (second : Bracketed depth more others' written') :
    Bracketed depth (labels ++ more) (others ++ others') (written ++ written') := by
  induction first with
  | nil => exact second
  | other output _ ih => exact .other output (ih second)
  | timer label body _ _ ih =>
    rw [List.append_assoc, List.append_assoc, List.append_assoc]
    exact .timer label body (ih second)

/-- Without timers, what is written is what others write. -/
theorem refl (depth : Nat) (written : List Output) : Bracketed depth [] written written := by
  induction written with
  | nil => exact .nil
  | cons output _ ih => exact .other output ih

/-- A timer around everything. -/
theorem around (label : String) (body : Bracketed (depth + 1) labels others written) :
    Bracketed depth (label :: labels) others
      (Timer.startRecord depth label :: written ++ [Timer.finishRecord depth label]) := by
  simpa using Bracketed.timer label body .nil

end Bracketed

/-- The records of timers, the last of which have not finished: those with the open labels, the
inner ones first. -/
inductive Opened (depth : Nat) : List String → List String → List Output → Prop
  | closed {labels : List String} {written : List Output}
      (brackets : Bracketed depth labels [] written) : Opened depth [] labels written
  | within {opened before inner : List String} {written inside : List Output} (label : String)
      (outer : Opened depth opened before written)
      (body : Bracketed (depth + opened.length + 1) inner [] inside) :
      Opened depth (label :: opened) (before ++ label :: inner)
        (written ++ Timer.startRecord (depth + opened.length) label :: inside)

namespace Opened

variable {depth : Nat} {opened labels more : List String} {written written' : List Output}

theorem append (outer : Opened depth opened labels written)
    (brackets : Bracketed (depth + opened.length) more [] written') :
    Opened depth opened (labels ++ more) (written ++ written') := by
  cases outer with
  | closed before => exact .closed (before.append brackets)
  | within label outer body =>
    rw [List.append_assoc, List.append_assoc]
    exact .within label outer (body.append brackets)

/-- The inner timer finishes. -/
theorem finish {label : String} (outer : Opened depth (label :: opened) labels written) :
    Opened depth opened labels
      (written ++ [Timer.finishRecord (depth + opened.length) label]) := by
  cases outer with
  | within _ outer body =>
    rw [List.append_assoc]
    exact outer.append (body.around label)

end Opened

/-! ### What is unfinished -/

/-- Something done with timers: another one is started, or the one started at a place finishes. -/
inductive TimerCall where
  | start (enabled : Bool) (label : String)
  | finish (place : Nat)
deriving DecidableEq, Repr

namespace TimerCall

def isStart : TimerCall → Bool
  | start .. => true
  | finish _ => false

/-- The label of the enabled timer that a call starts. -/
def label? : TimerCall → Option String
  | start true label => some label
  | _ => none

/-- The timers that are unfinished after calls, of which the last one comes first. -/
def unfinishedAfter : List TimerCall → List (Nat × Timer)
  | [] => []
  | start enabled label :: earlier =>
    (earlier.countP isStart, ⟨if enabled then some label else none⟩) :: unfinishedAfter earlier
  | finish place :: earlier => (unfinishedAfter earlier).filter (·.1 != place)

/-- The timers that calls leave unfinished, each with the place where it was started, the one that
was started last in front. -/
def unfinished (calls : List TimerCall) : List (Nat × Timer) := unfinishedAfter calls.reverse

/-- The labels of the enabled timers that calls leave unfinished. -/
def running (calls : List TimerCall) : List String := (unfinished calls).filterMap (·.2.label)

/-- Each timer that finishes is the last one that has not, and all timers finish. -/
structure LastInFirstOut (calls : List TimerCall) : Prop where
  last : ∀ before place after, calls = before ++ finish place :: after →
    ∃ timer, (unfinished before).head? = some (place, timer)
  all : unfinished calls = []

variable (calls : List TimerCall)

theorem unfinished_start (enabled : Bool) (label : String) :
    unfinished (calls ++ [start enabled label]) =
      (calls.countP isStart, ⟨if enabled then some label else none⟩) :: unfinished calls := by
  rw [unfinished, List.reverse_concat, unfinishedAfter, List.countP_reverse, unfinished]

theorem unfinished_finish (place : Nat) :
    unfinished (calls ++ [finish place]) = (unfinished calls).filter (·.1 != place) := by
  rw [unfinished, List.reverse_concat, unfinishedAfter, unfinished]

theorem running_start (enabled : Bool) (label : String) :
    running (calls ++ [start enabled label]) =
      if enabled then label :: running calls else running calls := by
  rw [running, unfinished_start]
  cases enabled <;> rfl

/-- A timer is the only one with its place, so all others are left when it is dropped. -/
theorem filter_cons_self {timers : List (Nat × Timer)} {entry : Nat × Timer}
    (distinct : ((entry :: timers).map (·.1)).Nodup) :
    (entry :: timers).filter (·.1 != entry.1) = timers := by
  obtain ⟨new, -⟩ := List.nodup_cons.mp distinct
  rw [List.filter_cons_of_neg (by simp), List.filter_eq_self]
  exact fun other own => bne_iff_ne.mpr fun same => new (List.mem_map.mpr ⟨other, own, same⟩)

theorem perm_filter {timers : List (Nat × Timer)} {entry : Nat × Timer}
    (distinct : (timers.map (·.1)).Nodup) (mem : entry ∈ timers) :
    timers.Perm (entry :: timers.filter (·.1 != entry.1)) := by
  induction timers with
  | nil => cases mem
  | cons first timers ih =>
    rcases List.mem_cons.mp mem with rfl | mem
    · rw [filter_cons_self distinct]
    · obtain ⟨new, distinct⟩ := List.nodup_cons.mp distinct
      have kept : (first.1 != entry.1) = true :=
        bne_iff_ne.mpr fun same => new (List.mem_map.mpr ⟨entry, mem, same.symm⟩)
      rw [List.filter_cons, if_pos kept]
      exact ((ih distinct mem).cons first).trans (List.Perm.swap ..)

/-- What runs before a timer finishes is the timer, if it is enabled, and what runs after it. -/
theorem perm_running {place : Nat} {timer : Timer}
    (distinct : ((unfinished calls).map (·.1)).Nodup) (mem : (place, timer) ∈ unfinished calls) :
    (running calls).Perm (timer.label.toList ++ running (calls ++ [finish place])) := by
  rw [running, running, unfinished_finish]
  refine ((perm_filter distinct mem).filterMap (·.2.label)).trans (.of_eq ?_)
  cases found : timer.label <;> simp [found]

/-- If the last timer finishes, those around it are left in their order. -/
theorem running_of_head {place : Nat} {timer : Timer}
    (distinct : ((unfinished calls).map (·.1)).Nodup)
    (head : (unfinished calls).head? = some (place, timer)) :
    running calls = timer.label.toList ++ running (calls ++ [finish place]) := by
  obtain ⟨outer, split⟩ := List.head?_eq_some_iff.mp head
  rw [split] at distinct
  rw [running, running, unfinished_finish, split, filter_cons_self distinct]
  cases found : timer.label <;> simp [found]

end TimerCall

/-! ### Timers in any order -/

namespace Timers

open TimerCall

def call (timers : Timers) : TimerCall → Emit Timers
  | .start enabled label => (·.2) <$> timers.start enabled label
  | .finish place => timers.finish place

/-- The timers after calls, made one after the other. -/
def run (timers : Timers) (calls : List TimerCall) : Emit Timers := calls.foldlM call timers

theorem run_concat (timers : Timers) (calls : List TimerCall) (next : TimerCall) :
    timers.run (calls ++ [next]) = timers.run calls >>= fun timers => timers.call next := by
  rw [run, List.foldlM_append]
  refine congrArg _ (funext fun timers => ?_)
  rw [List.foldlM_cons]
  exact bind_pure _

theorem call_start_enabled (timers : Timers) (label : String) :
    timers.call (.start true label) =
      ⟨⟨timers.depth + 1, timers.started ++ [some ⟨some label⟩]⟩,
        [Timer.startRecord timers.depth label]⟩ := rfl

theorem call_start_disabled (timers : Timers) (label : String) :
    timers.call (.start false label) = pure ⟨timers.depth, timers.started ++ [some ⟨none⟩]⟩ := rfl

theorem call_finish_enabled {timers : Timers} {place : Nat} {label : String}
    (stored : timers.started[place]? = some (some ⟨some label⟩)) :
    timers.call (.finish place) = ⟨⟨timers.depth - 1, timers.started.set place none⟩,
      [Timer.finishRecord (timers.depth - 1) label]⟩ := by
  rw [call, finish, stored]
  rfl

theorem call_finish_disabled {timers : Timers} {place : Nat}
    (stored : timers.started[place]? = some (some ⟨none⟩)) :
    timers.call (.finish place) = pure ⟨timers.depth, timers.started.set place none⟩ := by
  rw [call, finish, stored]
  rfl

theorem call_finish_absent {timers : Timers} {place : Nat}
    (absent : ∀ timer, timers.started[place]? ≠ some (some timer)) :
    timers.call (.finish place) = pure timers := by
  rw [call, finish]
  split
  · rename_i timer stored
    exact absurd stored (absent timer)
  · rfl

/-- Timers that were made by calls, over timers that ran before: the unfinished ones are stored at
their places, and the depth counts the enabled ones among them. -/
structure Tracks (depth : Nat) (calls : List TimerCall) (timers : Timers) : Prop where
  length : timers.started.length = calls.countP isStart
  stored : ∀ place timer,
    timers.started[place]? = some (some timer) ↔ (place, timer) ∈ unfinished calls
  distinct : ((unfinished calls).map (·.1)).Nodup
  depth : timers.depth = depth + (running calls).length

namespace Tracks

variable {depth : Nat} {calls : List TimerCall} {timers : Timers}

theorem nil (depth : Nat) : Tracks depth [] { depth } where
  length := rfl
  stored _ _ := ⟨nofun, nofun⟩
  distinct := List.nodup_nil
  depth := rfl

/-- A timer is started at a place behind all others. -/
theorem start (tracks : Tracks depth calls timers) (enabled : Bool) (label : String) :
    Tracks depth (calls ++ [.start enabled label]) (timers.call (.start enabled label)).answer := by
  have started : (timers.call (.start enabled label)).answer.started =
      timers.started ++ [some ⟨if enabled then some label else none⟩] := by
    cases enabled <;> rfl
  have counted : (timers.call (.start enabled label)).answer.depth =
      timers.depth + if enabled then 1 else 0 := by
    cases enabled <;> rfl
  refine ⟨?length, ?stored, ?distinct, ?depth⟩
  case length => simp [started, tracks.length, isStart]
  case stored =>
    intro place timer
    rw [started, unfinished_start, List.mem_cons, ← tracks.stored, ← tracks.length]
    rcases Nat.lt_trichotomy place timers.started.length with below | rfl | above
    · rw [List.getElem?_append_left below]
      simp [Nat.ne_of_lt below]
    · simp [eq_comm]
    · rw [List.getElem?_eq_none (List.length_append.trans_le above),
        List.getElem?_eq_none (Nat.le_of_lt above)]
      simp [Nat.ne_of_gt above]
  case distinct =>
    rw [unfinished_start, List.map_cons, List.nodup_cons]
    refine ⟨fun mem => ?_, tracks.distinct⟩
    obtain ⟨⟨place, timer⟩, own, same⟩ := List.mem_map.mp mem
    obtain ⟨inside, -⟩ := List.getElem?_eq_some_iff.mp ((tracks.stored place timer).mpr own)
    rw [tracks.length] at inside
    exact absurd same (Nat.ne_of_lt inside)
  case depth =>
    rw [counted, tracks.depth, running_start]
    cases enabled <;> simp [Nat.add_assoc]

/-- The enabled timers that run before a timer finishes, counted. -/
theorem length_running (tracks : Tracks depth calls timers) {place : Nat} {timer : Timer}
    (mem : (place, timer) ∈ unfinished calls) :
    (running calls).length =
      timer.label.toList.length + (running (calls ++ [.finish place])).length := by
  rw [(perm_running calls tracks.distinct mem).length_eq, List.length_append]

/-- What a timer that finishes does to the others. -/
theorem finish_of_mem (tracks : Tracks depth calls timers) {place : Nat} {timer : Timer}
    (mem : (place, timer) ∈ unfinished calls) :
    Tracks depth (calls ++ [.finish place]) (timers.call (.finish place)).answer := by
  have stored := (tracks.stored place timer).mpr mem
  have counted := tracks.length_running mem
  have changed : (timers.call (.finish place)).answer =
      ⟨timers.depth - timer.label.toList.length, timers.started.set place none⟩ := by
    rcases timer with ⟨_ | label⟩
    · rw [call_finish_disabled stored]
      rfl
    · rw [call_finish_enabled stored]
      rfl
  refine ⟨?length, ?stored, ?distinct, ?depth⟩
  case length => simp [changed, tracks.length, isStart]
  case stored =>
    intro p t
    rw [changed, unfinished_finish, List.mem_filter, ← tracks.stored, List.getElem?_set]
    by_cases same : place = p
    · subst same
      simp
    · simp [same, Ne.symm same]
  case distinct =>
    rw [unfinished_finish]
    exact tracks.distinct.sublist (List.filter_sublist.map _)
  case depth =>
    have before := tracks.depth
    rw [changed]
    show timers.depth - _ = _
    omega

theorem finish (tracks : Tracks depth calls timers) (place : Nat) :
    Tracks depth (calls ++ [.finish place]) (timers.call (.finish place)).answer := by
  by_cases mem : ∃ timer, (place, timer) ∈ unfinished calls
  · obtain ⟨timer, mem⟩ := mem
    exact tracks.finish_of_mem mem
  · have absent : ∀ timer, timers.started[place]? ≠ some (some timer) :=
      fun timer stored => mem ⟨timer, (tracks.stored place timer).mp stored⟩
    have same : unfinished (calls ++ [.finish place]) = unfinished calls := by
      rw [unfinished_finish, List.filter_eq_self]
      exact fun entry own => bne_iff_ne.mpr fun same => mem ⟨entry.2, same ▸ own⟩
    rw [call_finish_absent absent]
    exact ⟨by simp [tracks.length, isStart], same ▸ tracks.stored, same ▸ tracks.distinct, by
      rw [running, same]
      exact tracks.depth⟩

theorem run (depth : Nat) (calls : List TimerCall) :
    Tracks depth calls (Timers.run { depth } calls).answer := by
  induction calls using List.reverseRecOn with
  | nil => exact .nil depth
  | append_singleton calls next tracks =>
    rw [run_concat, Emit.answer_bind]
    cases next with
    | start enabled label => exact tracks.start enabled label
    | finish place => exact tracks.finish place

end Tracks

/-- Timers that finish in the reverse order of their starts write brackets, some of them open. -/
theorem opened_run (depth : Nat) {calls : List TimerCall}
    (last : ∀ before place after, calls = before ++ .finish place :: after →
      ∃ timer, (unfinished before).head? = some (place, timer)) :
    Opened depth (running calls) (calls.filterMap label?) (Timers.run { depth } calls).written := by
  -- A call acts on what the calls before it have opened, so the induction adds calls behind.
  induction calls using List.reverseRecOn with
  | nil => exact .closed .nil
  | append_singleton calls next ih =>
    have tracks := Tracks.run depth calls
    have opened := ih fun before place after split =>
      last before place (after ++ [next]) (by rw [split, List.append_assoc, List.cons_append])
    rw [run_concat, Emit.written_bind, List.filterMap_append]
    rcases next with ⟨_ | _, label⟩ | place
    · rw [call_start_disabled, running_start]
      simpa [List.filterMap_cons, label?] using opened
    · rw [call_start_enabled, running_start, tracks.depth]
      exact .within label opened .nil
    · obtain ⟨timer, head⟩ := last calls place [] rfl
      have stored := (tracks.stored place timer).mpr (List.mem_of_mem_head? head)
      have outer := running_of_head calls tracks.distinct head
      rcases timer with ⟨_ | label⟩
      · rw [call_finish_disabled stored]
        simpa [List.filterMap_cons, label?, outer] using opened
      · have depth' := tracks.depth
        rw [outer] at opened depth'
        rw [call_finish_enabled stored, depth']
        simpa [List.filterMap_cons, label?, Nat.add_assoc] using opened.finish

end Timers

/-! ### Sequences of actions -/

namespace Action

variable {σ α β : Type} {x : Action σ α} {f : α → Action σ β} {s s' : σ}

theorem runFrom_bind_ok {a : α} {ended : Except Fault β × σ} {written more : List Output}
    (first : x.runFrom s = ⟨(.ok a, s'), written⟩) (rest : (f a).runFrom s' = ⟨ended, more⟩) :
    (x >>= f).runFrom s = ⟨ended, written ++ more⟩ := by
  rw [runFrom_bind, first]
  show Emit.mk ((f a).runFrom s').answer (written ++ ((f a).runFrom s').written) = _
  rw [rest]

theorem runFrom_bind_error {fault : Fault} {written : List Output}
    (first : x.runFrom s = ⟨(.error fault, s'), written⟩) :
    (x >>= f).runFrom s = ⟨(.error fault, s'), written⟩ := by
  rw [runFrom_bind, first]
  exact Emit.ext rfl (List.append_nil written)

theorem runFrom_attempt_eq {outcome : Except Fault α} {written : List Output}
    (ran : x.runFrom s = ⟨(outcome, s'), written⟩) :
    (attempt x).runFrom s = ⟨(.ok outcome, s'), written⟩ := by
  rw [runFrom_attempt, ran]
  exact Emit.ext rfl (List.append_nil written)

end Action

/-! ### Startups -/

namespace Plan

variable {W α β : Type}

/-- An action that neither looks at the number of running timers nor changes it. -/
def Quiet (x : Action (State W) α) : Prop :=
  ∀ world, ∃ outcome world' written, ∀ depth,
    x.runFrom ⟨world, depth⟩ = ⟨(outcome, ⟨world', depth⟩), written⟩

namespace Quiet

theorem ofExcept (outcome : Except Fault α) :
    Quiet (Action.ofExcept outcome : Action (State W) α) :=
  fun world => ⟨outcome, world, [], fun _ => rfl⟩

theorem pure (a : α) : Quiet (Pure.pure a : Action (State W) α) :=
  fun world => ⟨.ok a, world, [], fun _ => rfl⟩

theorem ofEmit (x : Emit α) : Quiet (Action.ofEmit x : Action (State W) α) :=
  fun world => ⟨.ok x.answer, world, x.written ++ [], fun _ => rfl⟩

theorem print (text : String) : Quiet (Action.print text : Action (State W) Unit) :=
  fun world => ⟨.ok (), world, [.print text], fun _ => rfl⟩

theorem log (severity : Severity) (text : String) :
    Quiet (Action.log severity text : Action (State W) Unit) :=
  fun world => ⟨.ok (), world, [.record severity text], fun _ => rfl⟩

theorem zoom (x : Action W α) :
    Quiet (Action.zoom (·.world) (fun world s => { s with world }) x : Action (State W) α) :=
  fun world => ⟨(x.runFrom world).answer.1, (x.runFrom world).answer.2,
    (x.runFrom world).written ++ [], fun _ => rfl⟩

theorem bind {x : Action (State W) α} {f : α → Action (State W) β} (first : Quiet x)
    (rest : ∀ a, Quiet (f a)) : Quiet (x >>= f) := by
  intro world
  obtain ⟨fault | a, world', written, ran⟩ := first world
  · exact ⟨_, _, _, fun depth => Action.runFrom_bind_error (ran depth)⟩
  · obtain ⟨outcome, world'', more, ranRest⟩ := rest a world'
    exact ⟨_, _, _, fun depth => Action.runFrom_bind_ok (ran depth) (ranRest depth)⟩

end Quiet

variable (plan : Plan W)

theorem quiet_findFactory : Quiet plan.findFactory := .ofExcept _

theorem quiet_createBackend (factory : BackendFactory) : Quiet (plan.createBackend factory) := by
  refine (Quiet.ofEmit _).bind fun made => (Quiet.ofExcept made).bind fun backend =>
    (Quiet.ofEmit _).bind fun (registered, registry) => ?_
  rcases registered with panic | _
  · exact .ofExcept _
  · exact .pure _

theorem quiet_flag (key : OptionKey) : Quiet (plan.flag key) := .ofExcept _

theorem quiet_printOptions : Quiet plan.printOptions := by
  have config : Quiet (plan.flag .printConfig >>= fun printConfig =>
      if printConfig then do
        Action.print plan.vm.text
        return true
      else return false) := by
    refine (plan.quiet_flag _).bind fun printConfig => ?_
    cases printConfig with
    | true => exact (Quiet.print _).bind fun _ => .pure true
    | false => exact .pure false
  refine (plan.quiet_flag _).bind fun printFlags => ?_
  cases printFlags with
  | true =>
    refine (Quiet.pure true).bind fun shown => ?_
    cases shown with
    | true => exact (Quiet.print _).bind fun _ => .pure true
    | false => exact .pure true
  | false =>
    refine (plan.quiet_flag .showFlags).bind fun shown => ?_
    cases shown with
    | true => exact (Quiet.print _).bind fun _ => config
    | false => exact config

theorem quiet_selectFactory : Quiet plan.selectFactory := .zoom _

/-- A disabled timer adds nothing. -/
theorem runFrom_timed_disabled (label : String) {x : Action (State W) α} {s s' : State W}
    {outcome : Except Fault α} {written : List Output}
    (ran : x.runFrom s = ⟨(outcome, s'), written⟩) :
    (timed false label x).runFrom s = ⟨(outcome, s'), written⟩ := by
  have started : (startTimer false label).runFrom s = ⟨(.ok ⟨none⟩, s), []⟩ := rfl
  have finished : (finishTimer ⟨none⟩).runFrom s' = ⟨(.ok (), s'), []⟩ := rfl
  rw [timed, Action.runFrom_bind_ok started (Action.runFrom_bind_ok (Action.runFrom_attempt_eq ran)
    (Action.runFrom_bind_ok finished (Action.runFrom_ofExcept outcome s')))]
  simp

/-- An enabled timer adds its two records, and one to the depth while it runs. -/
theorem runFrom_timed_enabled (label : String) {x : Action (State W) α} {s s' : State W}
    {outcome : Except Fault α} {written : List Output}
    (ran : x.runFrom { s with depth := s.depth + 1 } = ⟨(outcome, s'), written⟩) :
    (timed true label x).runFrom s = ⟨(outcome, { s' with depth := s'.depth - 1 }),
      Timer.startRecord s.depth label :: written ++ [Timer.finishRecord (s'.depth - 1) label]⟩ := by
  have started : (startTimer true label).runFrom s =
      ⟨(.ok ⟨some label⟩, { s with depth := s.depth + 1 }),
        [Timer.startRecord s.depth label]⟩ := rfl
  have finished : (finishTimer ⟨some label⟩).runFrom s' =
      ⟨(.ok (), { s' with depth := s'.depth - 1 }),
        [Timer.finishRecord (s'.depth - 1) label]⟩ := rfl
  rw [timed, Action.runFrom_bind_ok started (Action.runFrom_bind_ok (Action.runFrom_attempt_eq ran)
    (Action.runFrom_bind_ok finished (Action.runFrom_ofExcept outcome _)))]
  simp

/-- With timers under these labels an action ends as it does without, and leaves as many running as
there were; the records of the timers bracket what it writes. -/
def Adds (timing : Bool) (labels : List String) (x y : Action (State W) α) : Prop :=
  ∀ s, ∃ outcome world' written others,
    x.runFrom s = ⟨(outcome, { s with world := world' }), written⟩ ∧
      y.runFrom s = ⟨(outcome, { s with world := world' }), others⟩ ∧
      Bracketed s.depth (if timing then labels else []) others written

theorem Quiet.adds {x : Action (State W) α} (quiet : Quiet x) (timing : Bool) :
    Adds timing [] x x := by
  intro s
  obtain ⟨outcome, world', written, ran⟩ := quiet s.world
  exact ⟨outcome, world', written, written, ran s.depth, ran s.depth, by
    rw [ite_self]
    exact .refl s.depth written⟩

theorem Quiet.adds_timed {x : Action (State W) α} (quiet : Quiet x) (timing : Bool)
    (label : String) : Adds timing [label] (timed timing label x) x := by
  intro s
  obtain ⟨outcome, world', written, ran⟩ := quiet s.world
  cases timing with
  | false =>
    exact ⟨outcome, world', written, written, runFrom_timed_disabled label (ran s.depth),
      ran s.depth, .refl s.depth written⟩
  | true =>
    exact ⟨outcome, world', _, written, runFrom_timed_enabled label (ran (s.depth + 1)),
      ran s.depth, .around label (.refl _ written)⟩

/-- The same of what is left of a startup, which may end before all of its timers have started; a
session that is running had all of them. -/
def Brackets (timing : Bool) (labels : List String) (x y : Action (State W) (Started W)) : Prop :=
  ∀ s, ∃ outcome world' written others reached,
    x.runFrom s = ⟨(outcome, { s with world := world' }), written⟩ ∧
      y.runFrom s = ⟨(outcome, { s with world := world' }), others⟩ ∧
      Bracketed s.depth (if timing then reached else []) others written ∧
      reached <+: labels ∧ ∀ session, outcome = .ok (.running session) → reached = labels

namespace Brackets

variable {timing : Bool} {own labels : List String}

theorem exited : Brackets (W := W) timing labels (pure .exited) (pure .exited) := by
  intro s
  refine ⟨.ok .exited, s.world, [], [], [], rfl, rfl, ?_, List.nil_prefix, fun _ => nofun⟩
  rw [ite_self]
  exact .nil

theorem of_adds {x y : Action (State W) (Started W)} (adds : Adds timing labels x y) :
    Brackets timing labels x y := by
  intro s
  obtain ⟨outcome, world', written, others, ran, bare, brackets⟩ := adds s
  exact ⟨outcome, world', written, others, labels, ran, bare, brackets, List.prefix_rfl,
    fun _ _ => rfl⟩

/-- The timers of a stage come in front of those of the stages behind it, which do not start if the
stage fails. -/
theorem bind {x y : Action (State W) α} {f g : α → Action (State W) (Started W)}
    (first : Adds timing own x y) (rest : ∀ a, Brackets timing labels (f a) (g a)) :
    Brackets timing (own ++ labels) (x >>= f) (y >>= g) := by
  intro s
  obtain ⟨fault | a, world', written, others, ran, bare, brackets⟩ := first s
  · exact ⟨.error fault, world', written, others, own, Action.runFrom_bind_error ran,
      Action.runFrom_bind_error bare, brackets, List.prefix_append .., fun _ => nofun⟩
  · obtain ⟨outcome, world'', more, moreOthers, reached, ranRest, bareRest, bracketsRest, reach,
      all⟩ := rest a { s with world := world' }
    refine ⟨outcome, world'', written ++ more, others ++ moreOthers, own ++ reached,
      Action.runFrom_bind_ok ran ranRest, Action.runFrom_bind_ok bare bareRest, ?_,
      (List.prefix_append_right_inj own).mpr reach, fun session same => ?_⟩
    · have both := brackets.append bracketsRest
      cases timing <;> exact both
    · rw [all session same]

theorem bind_quiet {x : Action (State W) α} {f g : α → Action (State W) (Started W)}
    (quiet : Quiet x) (rest : ∀ a, Brackets timing labels (f a) (g a)) :
    Brackets timing labels (x >>= f) (x >>= g) :=
  bind (quiet.adds timing) rest

end Brackets

/-- The stages of a startup, where those with a timer are run in a given way under its label. -/
def stagesUnder (plan : Plan W)
    (run : {α : Type} → String → Action (State W) α → Action (State W) α) :
    Action (State W) (Started W) := do
  let architecture := plan.vm.hostArchitecture
  let factory ← run s!"find factory: {architecture}" plan.findFactory
  let (host, backends) ← run s!"create backend: {architecture}" (plan.createBackend factory)
  if ← plan.printOptions then
    return .exited
  let selection ← run "resolve compiler factory" plan.selectFactory
  let session := plan.session host backends selection
  Action.log .debug (s!"runtime ready: host {host.arch.name}, compiler " ++
    s!"'{selection.factory.name}', level adjustment {session.adjustment.label}")
  return .running session

/-- The stages of a startup without timers. -/
def untimed (plan : Plan W) : Action (State W) (Started W) := plan.stagesUnder fun _ stage => stage

/-- The labels of the timers inside a startup. -/
def timerLabels (plan : Plan W) : List String :=
  [s!"find factory: {plan.vm.hostArchitecture}", s!"create backend: {plan.vm.hostArchitecture}",
    "resolve compiler factory"]

theorem stages_eq_stagesUnder (timing : Bool) :
    plan.stages timing = plan.stagesUnder (timed timing) := rfl

theorem quiet_untimed : Quiet plan.untimed := by
  refine plan.quiet_findFactory.bind fun factory => (plan.quiet_createBackend factory).bind
    fun (host, backends) => plan.quiet_printOptions.bind fun exits => ?_
  cases exits with
  | true => exact .pure _
  | false =>
    exact plan.quiet_selectFactory.bind fun selection => (Quiet.log _ _).bind fun _ => .pure _

theorem brackets_stages (timing : Bool) :
    Brackets timing plan.timerLabels (plan.stages timing) plan.untimed := by
  rw [stages_eq_stagesUnder]
  refine .bind (plan.quiet_findFactory.adds_timed _ _) fun factory =>
    .bind ((plan.quiet_createBackend factory).adds_timed _ _) fun (host, backends) =>
      .bind_quiet plan.quiet_printOptions fun exits => ?_
  cases exits with
  | true => exact .exited
  | false =>
    exact .bind (plan.quiet_selectFactory.adds_timed _ _) fun selection =>
      .of_adds (((Quiet.log _ _).bind fun _ => .pure _).adds _)

/-- The timer around all stages is like any other, unless the process ends. -/
theorem runFrom_startTimed {timing : Bool} {s : State W}
    (running : ((plan.startTimed timing).runFrom s).answer.1 ≠ .ok .exited) :
    (plan.startTimed timing).runFrom s =
      (timed timing "Runtime<init>" (plan.stages timing)).runFrom s := by
  obtain ⟨timer, within, written, started⟩ : ∃ timer within written,
      (startTimer timing "Runtime<init>").runFrom s = ⟨(.ok timer, within), written⟩ := by
    cases timing <;> exact ⟨_, _, _, rfl⟩
  rcases ran : (plan.stages timing).runFrom within with ⟨⟨outcome, s'⟩, inside⟩
  have attempted := Action.runFrom_attempt_eq ran
  rcases outcome with fault | session | _
  · rw [startTimed, timed, Action.runFrom_bind_ok started (Action.runFrom_bind_ok attempted rfl),
      Action.runFrom_bind_ok started (Action.runFrom_bind_ok attempted rfl)]
  · rw [startTimed, timed, Action.runFrom_bind_ok started (Action.runFrom_bind_ok attempted rfl),
      Action.runFrom_bind_ok started (Action.runFrom_bind_ok attempted rfl)]
  · rw [startTimed, Action.runFrom_bind_ok started (Action.runFrom_bind_ok attempted rfl)]
      at running
    exact absurd rfl running

theorem brackets_start {s : State W}
    (running : (plan.start.runFrom s).answer.1 ≠ .ok .exited) :
    (plan.start.runFrom s).answer = (plan.untimed.runFrom s).answer ∧
      (plan.start.runFrom s).answer.2.depth = s.depth ∧
      ∃ reached, reached <+: plan.timerLabels ∧
        (∀ session, (plan.start.runFrom s).answer.1 = .ok (.running session) →
          reached = plan.timerLabels) ∧
        Bracketed s.depth
          (if plan.options.value .initTimer = .bool true then "Runtime<init>" :: reached else [])
          (plan.untimed.runFrom s).written (plan.start.runFrom s).written := by
  obtain ⟨timing, own⟩ := plan.options.exists_bool .initTimer rfl
  rw [start_eq_startTimed own] at running ⊢
  rw [plan.runFrom_startTimed running, own]
  have brackets := plan.brackets_stages timing
  cases timing with
  | false =>
    obtain ⟨outcome, world', written, others, reached, ran, bare, bracketed, reach, all⟩ :=
      brackets s
    rw [runFrom_timed_disabled _ ran, bare]
    exact ⟨rfl, rfl, reached, reach, all, bracketed⟩
  | true =>
    obtain ⟨outcome, world', written, others, reached, ran, bare, bracketed, reach, all⟩ :=
      brackets { s with depth := s.depth + 1 }
    obtain ⟨outcome', world'', others', quiet⟩ := plan.quiet_untimed s.world
    -- The stages ran one deeper than they would without timers, which they do not notice.
    have same := (quiet (s.depth + 1)).symm.trans bare
    cases same
    rw [runFrom_timed_enabled _ ran, quiet s.depth]
    exact ⟨rfl, rfl, reached, reach, all, bracketed.around _⟩

end Plan

namespace Timers

open TimerCall

/-- After any calls over a depth, of which 0 is the one that a program begins with, the depth is
greater by the number of enabled timers that are unfinished. A start is indented by that number, and
a finish by the number that it leaves, which is always one less; a disabled timer, one that has
finished and one that was never started write nothing and leave the depth as it is. Timers that
finish in the reverse order of their starts write brackets and nothing else, and leave the depth
where it began.

A startup has such brackets around what it writes without timers, and ends as it does without,
unless the process ends before the outer timer finishes. -/
theorem count_and_bracket (depth : Nat) (calls : List TimerCall) :
    let ran := run { depth } calls
    (ran.answer.depth = depth + (running calls).length ∧
      (∀ label, (ran.answer.call (.start true label)).written =
        [Timer.startRecord (depth + (running calls).length) label]) ∧
      (∀ label, let started := ran.answer.call (.start false label)
        started.written = [] ∧ started.answer.depth = ran.answer.depth) ∧
      (∀ place label, (place, ⟨some label⟩) ∈ unfinished calls →
        let finished := ran.answer.call (.finish place)
        let left := depth + (running (calls ++ [.finish place])).length
        ran.answer.depth = left + 1 ∧ finished.answer.depth = left ∧
          finished.written = [Timer.finishRecord left label]) ∧
      ∀ place, (∀ label, (place, ⟨some label⟩) ∉ unfinished calls) →
        let finished := ran.answer.call (.finish place)
        finished.written = [] ∧ finished.answer.depth = ran.answer.depth) ∧
    (LastInFirstOut calls →
      Bracketed depth (calls.filterMap label?) [] ran.written ∧ ran.answer.depth = depth) ∧
    ∀ (W : Type) (plan : Plan W) (s : Plan.State W), let ended := plan.start.runFrom s
      ended.answer.1 ≠ .ok .exited →
        ended.answer = (plan.untimed.runFrom s).answer ∧ ended.answer.2.depth = s.depth ∧
        ∃ reached, reached <+: plan.timerLabels ∧
          (∀ session, ended.answer.1 = .ok (.running session) → reached = plan.timerLabels) ∧
          Bracketed s.depth
            (if plan.options.value .initTimer = .bool true then "Runtime<init>" :: reached else [])
            (plan.untimed.runFrom s).written ended.written := by
  intro ran
  have tracks : Tracks depth calls ran.answer := Tracks.run depth calls
  refine ⟨⟨tracks.depth, fun label => ?start, fun label => ⟨rfl, rfl⟩, ?enabled, ?others⟩, ?nested,
    fun W plan s => plan.brackets_start⟩
  case start => rw [call_start_enabled, tracks.depth]
  case enabled =>
    intro place label mem finished left
    have counted : (running calls).length = (running (calls ++ [.finish place])).length + 1 := by
      rw [tracks.length_running mem, Nat.add_comm]
      rfl
    have before : ran.answer.depth = left + 1 := by
      rw [tracks.depth, counted, Nat.add_assoc]
    have effect := call_finish_enabled ((tracks.stored place ⟨some label⟩).mpr mem)
    rw [before, Nat.add_sub_cancel] at effect
    exact ⟨before, congrArg (·.answer.depth) effect, congrArg Emit.written effect⟩
  case others =>
    intro place quiet finished
    by_cases mem : (place, ⟨none⟩) ∈ unfinished calls
    · have effect := call_finish_disabled ((tracks.stored place ⟨none⟩).mpr mem)
      exact ⟨congrArg Emit.written effect, congrArg (·.answer.depth) effect⟩
    · have effect : finished = pure ran.answer := by
        refine call_finish_absent fun timer stored => ?_
        rcases timer with ⟨_ | label⟩
        · exact mem ((tracks.stored place ⟨none⟩).mp stored)
        · exact quiet label ((tracks.stored place ⟨some label⟩).mp stored)
      exact ⟨congrArg Emit.written effect, congrArg (·.answer.depth) effect⟩
  case nested =>
    intro lifo
    have opened := opened_run depth lifo.last
    have none : running calls = [] := by rw [running, lifo.all, List.filterMap_nil]
    rw [none] at opened
    cases opened with
    | closed brackets => exact ⟨brackets, by rw [tracks.depth, none, List.length_nil, Nat.add_zero]⟩

/-- An outer timer that finishes before an inner one, two that are nested, of which the inner one is
indented, and a startup whose host no backend answers to. -/
theorem count_and_bracket_of_two :
    let crossing : List TimerCall :=
      [.start true "outer", .start false "quiet", .start true "inner", .finish 0]
    let nested : List TimerCall := [.start true "outer", .start true "inner", .finish 1, .finish 0]
    let plan : Plan Unit := {
      vm := { hostArchitecture := "vax" }
      options := Options.set {} .initTimer "true"
      services := Services.builtin .bytewise }
    ((run { depth := 0 } crossing).answer.call (.finish 2)).written =
        [.record .info "FINISH: inner [_ ms]"] ∧
      ((run { depth := 0 } crossing).answer.call (.finish 1)).written = [] ∧
      ((run { depth := 0 } (nested.take 1)).answer.call (.start true "inner")).written =
        [.record .info "  START: inner"] ∧
      ((run { depth := 0 } (nested.take 2)).answer.call (.finish 1)).written =
        [.record .info "  FINISH: inner [_ ms]"] ∧
      Bracketed 0 ["outer", "inner"] [] (run { depth := 0 } nested).written ∧
      ∃ reached, reached <+: plan.timerLabels ∧
        Bracketed 0 ("Runtime<init>" :: reached) (plan.untimed.runFrom { world := () }).written
          (plan.start.runFrom { world := () }).written := by
  intro crossing nested plan
  obtain ⟨⟨-, -, -, enabled, others⟩, -, -⟩ := count_and_bracket 0 crossing
  obtain ⟨⟨-, start, -, -, -⟩, -, -⟩ := count_and_bracket 0 (nested.take 1)
  obtain ⟨⟨-, -, -, finish, -⟩, -, -⟩ := count_and_bracket 0 (nested.take 2)
  obtain ⟨-, brackets, starts⟩ := count_and_bracket 0 nested
  refine ⟨?_, ?_, ?_, ?_, ?_, ?_⟩
  · exact (enabled 2 "inner" (by decide)).2.2
  · have left : unfinished crossing = [(2, ⟨some "inner"⟩), (1, ⟨none⟩)] := rfl
    exact (others 1 (by simp [left])).1
  · exact start "inner"
  · exact (finish 1 "inner" (by decide)).2.2
  · have lifo : LastInFirstOut nested := by
      refine ⟨fun before place after split => ?_, rfl⟩
      rcases before with _ | ⟨_, _ | ⟨_, _ | ⟨_, _ | ⟨_, before⟩⟩⟩⟩
      all_goals simp [nested] at split
      · obtain ⟨rfl, rfl, rfl, -⟩ := split
        exact ⟨_, rfl⟩
      · obtain ⟨rfl, rfl, rfl, rfl, -⟩ := split
        exact ⟨_, rfl⟩
    exact (brackets lifo).1
  · have failed : (plan.start.runFrom { world := () }).answer.1.isOk = false := by decide +kernel
    obtain ⟨-, -, reached, reach, -, bracketed⟩ := starts Unit plan { world := () } fun exited => by
      rw [exited] at failed
      cases failed
    exact ⟨reached, reach, bracketed⟩

end Timers
end JitBridge
