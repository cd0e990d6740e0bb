import JitBridge.Proofs.Signature.Grammar
import JitBridge.Signature.Positions
import Mathlib.Data.List.Basic

/-!
Reading at positions. `FieldType.readAt_eq` says that it never panics and ends as reading from the
front of what stands there; so a field type is framed by the two positions, and is read alike
wherever the same bytes stand (`FieldType.readAt_local`). A turn of the loop over the parameters is
one step of reading them from the front (`Signature.exists_turn`); with `Signature.Runs`, the runs
of the loop, its turns are counted. So parsing at positions is parsing (`Signature.parseAt_eq`).

`Signature.parameters_read_in_place` puts this together for any bytes and any position.
-/

namespace JitBridge

namespace FieldType

/-- What was read from the front of the end of `bytes`, with the position behind it in place of the
rest. -/
def endingIn {α : Type} (bytes : List UInt8) (taken : Except Malformed (α × List UInt8)) :
    Except Malformed (α × Nat) :=
  taken.map fun (found, rest) => (found, bytes.length - rest.length)

variable {bytes : List UInt8} {pos : Nat}

theorem endingIn_drop {α : Type} {found : α} {next : Nat} (ends : next ≤ bytes.length) :
    endingIn bytes (.ok (found, bytes.drop next)) = .ok (found, next) := by
  have behind : bytes.length - (bytes.length - next) = next := by omega
  simp only [endingIn, Except.map, List.length_drop, behind]

/-- The byte at a position stands in front of what stands at the next. -/
theorem drop_eq_cons {b : UInt8} (standing : bytes[pos]? = some b) :
    pos < bytes.length ∧ bytes.drop pos = b :: bytes.drop (pos + 1) := by
  obtain ⟨inside, found⟩ := List.getElem?_eq_some_iff.mp standing
  exact ⟨inside, found ▸ List.drop_eq_getElem_cons inside⟩

/-! ### Arrays -/

theorem arrayOf_arrayOf {ρ : Type} (component : Except Malformed (Kind × ρ)) :
    arrayOf (arrayOf component) = arrayOf component := by
  cases component with
  | error e => rfl
  | ok found =>
    obtain ⟨kind, behind⟩ := found
    cases kind <;> rfl

theorem endingIn_arrayOf (component : Except Malformed (Kind × List UInt8)) :
    endingIn bytes (arrayOf component) = arrayOf (endingIn bytes component) := by
  cases component with
  | error e => rfl
  | ok found =>
    obtain ⟨kind, rest⟩ := found
    cases kind <;> rfl

theorem read_bracket (rest : List UInt8) : read (ascii '[' :: rest) = arrayOf (read rest) := by
  have noClass : ascii '[' ≠ ascii 'L' := by decide
  rw [read, if_neg noClass, if_pos rfl]
  cases read rest with
  | error e => rfl
  | ok found =>
    obtain ⟨kind, behind⟩ := found
    cases kind <;> rfl

/-- An array of arrays is an array, so its brackets may be passed at once. -/
theorem arrayOf_read_pastBrackets (bytes : List UInt8) (pos : Nat) :
    arrayOf (read (bytes.drop (pastBrackets bytes pos))) = arrayOf (read (bytes.drop pos)) := by
  induction pos using pastBrackets.induct bytes with
  | case1 pos bracket ih =>
    rw [pastBrackets, dif_pos bracket, ih, (drop_eq_cons bracket).2, read_bracket, arrayOf_arrayOf]
  | case2 pos noBracket => rw [pastBrackets, dif_neg noBracket]

/-! ### Classes -/

/-- A class name ends at the first `;`. -/
theorem readClass_eq (bytes : List UInt8) :
    readClass bytes =
      match bytes.findIdx? (· == ascii ';') with
      | none => .error .unterminatedClass
      | some stop =>
        if stop = 0 then .error .emptyClass else .ok (.object, bytes.drop (stop + 1)) := by
  have dropped : bytes.dropWhile (· != ascii ';') =
      bytes.drop (bytes.findIdx (· == ascii ';')) := by
    rw [List.dropWhile_eq_drop_findIdx_not]
    simp only [bne, Bool.not_not]
  rw [readClass, dropped, List.findIdx_eq_getD_findIdx?]
  cases found : bytes.findIdx? (· == ascii ';') with
  | none => simp
  | some stop =>
    obtain ⟨inside, ends, first⟩ := List.findIdx?_eq_some_iff_getElem.mp found
    have empty : bytes.head? = some (ascii ';') ↔ stop = 0 := by
      rw [List.head?_eq_getElem?, List.getElem?_eq_some_iff]
      constructor
      · rintro ⟨begun, opens⟩
        by_contra later
        exact first 0 (Nat.pos_of_ne_zero later) (beq_iff_eq.mpr opens)
      · rintro rfl
        exact ⟨inside, beq_iff_eq.mp ends⟩
    simp only [Option.getD_some, List.drop_eq_getElem_cons inside, empty]

/-- Behind an `L` at a position a class name is read as behind an `L` in front. -/
theorem readClassAt_eq (opens : bytes[pos]? = some (ascii 'L')) :
    readClassAt bytes pos = .ok (endingIn bytes (readClass (bytes.drop (pos + 1)))) := by
  obtain ⟨inside, front⟩ := drop_eq_cons opens
  have passed : ¬ (ascii 'L' == ascii ';') = true := by decide
  rw [readClassAt, slice, if_pos (Nat.le_of_lt inside), Except.map, front, List.findIdx?_cons,
    if_neg passed, readClass_eq]
  cases stopped : (bytes.drop (pos + 1)).findIdx? (· == ascii ';') with
  | none => rfl
  | some stop =>
    obtain ⟨within, -⟩ := List.findIdx?_eq_some_iff_getElem.mp stopped
    rw [List.length_drop] at within
    by_cases empty : stop = 0
    · subst empty
      rfl
    · have named : stop + 1 ≠ 1 := by omega
      have ends : pos + 1 + (stop + 1) ≤ bytes.length := by omega
      have behind : pos + (stop + 1) + 1 = pos + 1 + (stop + 1) := by omega
      simp only [Option.map_some, if_neg empty, if_neg named, List.drop_drop, endingIn_drop ends,
        behind]

/-! ### Field types -/

/-- Reading at a position never panics, and ends as reading what stands there. -/
theorem readAt_eq (bytes : List UInt8) (pos : Nat) :
    readAt bytes pos = .ok (endingIn bytes (read (bytes.drop pos))) := by
  fun_induction readAt bytes pos with
  | case1 pos missing =>
    rw [List.drop_eq_nil_of_le (List.getElem?_eq_none_iff.mp missing)]
    rfl
  | case2 pos opens => rw [readClassAt_eq opens, (drop_eq_cons opens).2, read, if_pos rfl]
  | case3 pos bracket noClass ih =>
    rw [ih, (drop_eq_cons bracket).2, read_bracket, ← arrayOf_read_pastBrackets, endingIn_arrayOf]
    rfl
  | case4 pos b standing noClass noArray kind typed =>
    obtain ⟨inside, front⟩ := drop_eq_cons standing
    rw [front, read, if_neg noClass, if_neg noArray]
    simp only [typed, endingIn_drop inside]
  | case5 pos b standing noClass noArray typed =>
    rw [(drop_eq_cons standing).2, read, if_neg noClass, if_neg noArray]
    simp only [typed]
    rfl

/-- What is read stands between the two positions, and is a field type or `V`. Nothing else enters:
where such a text stands, it is read. -/
theorem readAt_eq_ok_iff {kind : Kind} {next : Nat} :
    readAt bytes pos = .ok (.ok (kind, next)) ↔
      pos < next ∧ next ≤ bytes.length ∧ DenotesResult (bytes.extract pos next) kind := by
  rw [List.extract_eq_take_drop]
  constructor
  · intro taken
    obtain ⟨begins, ends⟩ := advances_of_readAt taken
    refine ⟨begins, ends, ?_⟩
    rw [readAt_eq, Except.ok.injEq] at taken
    cases first : read (bytes.drop pos) with
    | error e =>
      rw [first] at taken
      cases taken
    | ok found =>
      obtain ⟨own, rest⟩ := found
      rw [first] at taken
      cases taken
      obtain ⟨text, whole, denotes⟩ := denotes_of_read first
      have lengths := congrArg List.length whole
      rw [List.length_append, List.length_drop] at lengths
      have between : bytes.length - rest.length - pos = text.length := by omega
      rw [whole, between, List.take_left]
      exact denotes
  · rintro ⟨begins, ends, denotes⟩
    have rest : (bytes.drop pos).drop (next - pos) = bytes.drop next := by
      rw [List.drop_drop]
      congr 1
      omega
    have taken := read_append_of_result denotes (bytes.drop next)
    rw [← rest, List.take_append_drop, rest] at taken
    rw [readAt_eq, taken, endingIn_drop ends]

/-- What is read at a position is read, in the same way, wherever the same bytes stand. -/
theorem readAt_local {kind : Kind} {next : Nat} (taken : readAt bytes pos = .ok (.ok (kind, next)))
    {other : List UInt8} {start : Nat}
    (same : other.extract start (start + (next - pos)) = bytes.extract pos next) :
    readAt other start = .ok (.ok (kind, start + (next - pos))) := by
  obtain ⟨begins, ends, denotes⟩ := readAt_eq_ok_iff.mp taken
  -- As many bytes stand there, so none of them is missing at the end of the other text.
  have lengths := congrArg List.length same
  simp only [List.extract_eq_take_drop, List.length_take, List.length_drop] at lengths
  exact readAt_eq_ok_iff.mpr ⟨by omega, by omega, same ▸ denotes⟩

/-- A kind that is read can be passed, or it is that of `V`. -/
theorem kind_of_readAt {kind : Kind} {next : Nat}
    (taken : readAt bytes pos = .ok (.ok (kind, next))) :
    kind.lane.isSome ∨ kind = .void ∧ next = pos + 1 ∧ bytes[pos]? = some (ascii 'V') := by
  obtain ⟨begins, ends, denotes⟩ := readAt_eq_ok_iff.mp taken
  rw [List.extract_eq_take_drop] at denotes
  generalize cut : (bytes.drop pos).take (next - pos) = text at denotes
  cases denotes with
  | value denotes => exact .inl (isSome_lane_of_denotes denotes)
  | void =>
    have lengths := congrArg List.length cut
    rw [List.length_take, List.length_drop, List.length_singleton] at lengths
    have only : next - pos = 1 := by omega
    have first := congrArg (·[0]?) cut
    rw [List.getElem?_take_of_lt (by omega), List.getElem?_drop] at first
    exact .inr ⟨rfl, by omega, first⟩

end FieldType

namespace Signature

open FieldType

variable {bytes : List UInt8} {pos : Nat}

/-! ### The loop over the parameters -/

/-- What the loop comes to by a turn, if `later` is what it comes to from a later position. -/
def Turn.outcome (later : Nat → Except Malformed (List Kind × Nat)) :
    Turn → Except Malformed (List Kind × Nat)
  | .closed behind => .ok ([], behind)
  | .parameter kind next => (later next).map fun (kinds, behind) => (kind :: kinds, behind)
  | .failed malformed => .error malformed

/-- A turn never panics, and is one step of reading parameters from the front. -/
theorem exists_turn (bytes : List UInt8) (pos : Nat) :
    ∃ t, turn bytes pos = .ok t ∧
      endingIn bytes (readParameters (bytes.drop pos)) =
        t.outcome fun next => endingIn bytes (readParameters (bytes.drop next)) := by
  cases standing : bytes[pos]? with
  | none =>
    refine ⟨.failed .missingClosing, by rw [turn, standing], ?_⟩
    rw [List.drop_eq_nil_of_le (List.getElem?_eq_none_iff.mp standing), readParameters]
    rfl
  | some b =>
    obtain ⟨inside, front⟩ := drop_eq_cons standing
    by_cases closing : b = ascii ')'
    · refine ⟨.closed (pos + 1), by simp only [turn, standing, if_pos closing], ?_⟩
      rw [front, readParameters, if_pos closing, endingIn_drop inside, Turn.outcome]
    · have asked : turn bytes pos =
          .ok (.take (endingIn bytes (FieldType.read (bytes.drop pos)))) := by
        simp only [turn, standing, if_neg closing, readAt_eq]
        rfl
      refine ⟨_, asked, ?_⟩
      rw [front]
      cases first : FieldType.read (b :: bytes.drop (pos + 1)) with
      | error e =>
        rw [readParameters_of_read_error closing first]
        rfl
      | ok taken =>
        obtain ⟨kind, rest⟩ := taken
        by_cases void : kind = .void
        · subst void
          rw [readParameters_of_read_void closing first]
          rfl
        -- What is left stands at the position that the turn moves to.
        · obtain ⟨text, whole, -⟩ := denotes_of_read first
          have ending : rest <:+ bytes.drop pos := ⟨text, by rw [front, whole]⟩
          have suffix : rest = bytes.drop (bytes.length - rest.length) :=
            List.suffix_iff_eq_drop.mp (ending.trans (List.drop_suffix pos bytes))
          have turned : Turn.take (endingIn bytes (.ok (kind, rest))) =
              .parameter kind (bytes.length - rest.length) := by
            cases kind <;> first | rfl | exact absurd rfl void
          rw [readParameters_of_read closing void first, turned, Turn.outcome, ← suffix]
          cases readParameters rest with
          | error e => rfl
          | ok found => rfl

theorem outcome_of_turn {t : Turn} (turned : turn bytes pos = .ok t) :
    endingIn bytes (readParameters (bytes.drop pos)) =
      t.outcome fun next => endingIn bytes (readParameters (bytes.drop next)) := by
  obtain ⟨own, same, comes⟩ := exists_turn bytes pos
  cases same.symm.trans turned
  exact comes

/-- A run of the loop: where it starts, the positions of its turns, and what it comes to. -/
inductive Runs (bytes : List UInt8) :
    Nat → List Nat → Except Malformed (List Kind × Nat) → Prop where
  | closed {pos behind : Nat} : turn bytes pos = .ok (.closed behind) →
      Runs bytes pos [pos] (.ok ([], behind))
  | failed {pos : Nat} {malformed : Malformed} : turn bytes pos = .ok (.failed malformed) →
      Runs bytes pos [pos] (.error malformed)
  | parameter {pos next : Nat} {kind : Kind} {turns : List Nat}
      {outcome : Except Malformed (List Kind × Nat)} :
      turn bytes pos = .ok (.parameter kind next) → Runs bytes next turns outcome →
      Runs bytes pos (pos :: turns) (outcome.map fun (kinds, behind) => (kind :: kinds, behind))

/-- From every position there is a run. -/
theorem exists_runs (bytes : List UInt8) (pos : Nat) :
    ∃ turns outcome, Runs bytes pos turns outcome := by
  -- With every parameter fewer bytes are left.
  induction left : bytes.length - pos using Nat.strongRecOn generalizing pos with
  | ind left' ih =>
    obtain ⟨t, turned, -⟩ := exists_turn bytes pos
    cases t with
    | closed behind => exact ⟨_, _, .closed turned⟩
    | failed malformed => exact ⟨_, _, .failed turned⟩
    | parameter kind next =>
      obtain ⟨begins, ends⟩ := advances_of_turn turned
      obtain ⟨turns, outcome, runs⟩ := ih (bytes.length - next) (by omega) next rfl
      exact ⟨_, _, .parameter turned runs⟩

/-- A run never turns back, and it has no more turns than there are bytes left, and one. -/
theorem Runs.advances {turns : List Nat} {outcome : Except Malformed (List Kind × Nat)}
    (runs : Runs bytes pos turns outcome) :
    turns.Pairwise (· < ·) ∧ (∀ place ∈ turns, pos ≤ place) ∧
      turns.length ≤ bytes.length - pos + 1 := by
  induction runs with
  | closed _ => simp
  | failed _ => simp
  | @parameter pos next kind turns outcome turned _ ih =>
    obtain ⟨increasing, later, short⟩ := ih
    obtain ⟨begins, ends⟩ := advances_of_turn turned
    refine ⟨List.pairwise_cons.mpr ⟨fun place mem => ?_, increasing⟩, fun place mem => ?_, ?_⟩
    · exact Nat.lt_of_lt_of_le begins (later place mem)
    · rcases List.mem_cons.mp mem with rfl | mem
      · exact Nat.le_refl place
      · exact Nat.le_trans (Nat.le_of_lt begins) (later place mem)
    · rw [List.length_cons]
      omega

/-- A run comes to what is read as parameters from the front of what stands there. -/
theorem Runs.outcome_eq {turns : List Nat} {outcome : Except Malformed (List Kind × Nat)}
    (runs : Runs bytes pos turns outcome) :
    outcome = endingIn bytes (readParameters (bytes.drop pos)) := by
  induction runs with
  | closed turned => exact (outcome_of_turn turned).symm
  | failed turned => exact (outcome_of_turn turned).symm
  | parameter turned _ ih =>
    rw [outcome_of_turn turned, ih]
    rfl

/-- The loop never panics, and ends as reading parameters from the front of what stands there. -/
theorem readParametersAt_eq (bytes : List UInt8) (pos : Nat) :
    readParametersAt bytes pos = .ok (endingIn bytes (readParameters (bytes.drop pos))) := by
  fun_induction readParametersAt bytes pos with
  | case1 pos p turned =>
    obtain ⟨t, same, -⟩ := exists_turn bytes pos
    cases same.symm.trans turned
  | case2 pos behind turned => rw [outcome_of_turn turned, Turn.outcome]
  | case3 pos malformed turned => rw [outcome_of_turn turned, Turn.outcome]
  | case4 pos kind next turned ih =>
    rw [outcome_of_turn turned, ih]
    rfl

/-- Reading a descriptor at positions never panics, and ends as reading it from the front. -/
theorem readKindsAt_eq (bytes : List UInt8) : readKindsAt bytes = .ok (readKinds bytes) := by
  cases bytes with
  | nil => rfl
  | cons b rest =>
    by_cases opens : b = ascii '('
    · have begun : (b :: rest)[0]? = some (ascii '(') := congrArg some opens
      rw [readKindsAt, if_pos begun, readParametersAt_eq, List.drop_one, List.tail_cons, readKinds,
        if_pos opens]
      cases taken : readParameters rest with
      | error e => rfl
      | ok found =>
        obtain ⟨parameters, behind⟩ := found
        obtain ⟨texts, whole, -⟩ := denotes_of_readParameters taken
        have suffix : behind <:+ b :: rest := ⟨b :: texts ++ [ascii ')'], by simp [whole]⟩
        simp only [endingIn, Except.map, readAt_eq]
        rw [← List.suffix_iff_eq_drop.mp suffix]
        cases first : FieldType.read behind with
        | error e => rfl
        | ok result =>
          obtain ⟨returnKind, left⟩ := result
          cases left with
          | nil => exact congrArg _ (if_pos rfl)
          | cons c left =>
            have short : ¬ (b :: rest).length - (c :: left).length = (b :: rest).length := by
              simp only [List.length_cons]
              omega
            exact congrArg _ (if_neg short)
    · have other : ¬ (b :: rest)[0]? = some (ascii '(') := fun same => opens (Option.some.inj same)
      rw [readKindsAt, if_neg other, readKinds, if_neg opens]

/-- Descriptors are parsed alike at positions and from the front. -/
theorem parseAt_eq (descriptor : String) : parseAt descriptor = .ok (parse descriptor) := by
  rw [parseAt, readKindsAt_eq, parse, read]
  cases readKinds (bytesOf descriptor) with
  | error malformed => rfl
  | ok found => rfl

/-- Over any bytes and from any position, reading a field type never panics, and ends as reading it
from the front of what stands there. If it takes one, the position behind it comes later and within
the bytes, the kind is not illegal, and it is `void` only for a `V` at the position; and wherever
other bytes hold the same between two positions, the same is taken there. So a turn of the loop over
the parameters never panics either, and moves on with every parameter, within the bytes; the loop
ends, after no more turns than there are bytes left and one, as reading parameters from the front
does, and the whole descriptor is read so too. -/
theorem parameters_read_in_place (bytes : List UInt8) (pos : Nat) :
    let comesTo := endingIn bytes (readParameters (bytes.drop pos))
    readAt bytes pos = .ok (endingIn bytes (FieldType.read (bytes.drop pos))) ∧
    (∀ kind next, readAt bytes pos = .ok (.ok (kind, next)) →
      pos < next ∧ next ≤ bytes.length ∧
      (kind = .void → next = pos + 1 ∧ bytes[pos]? = some (ascii 'V')) ∧ kind ≠ .illegal ∧
      ∀ (other : List UInt8) (start : Nat),
        other.extract start (start + (next - pos)) = bytes.extract pos next →
        readAt other start = .ok (.ok (kind, start + (next - pos)))) ∧
    (∃ t, turn bytes pos = .ok t) ∧
    (∀ kind next, turn bytes pos = .ok (.parameter kind next) → pos < next ∧ next ≤ bytes.length) ∧
    readParametersAt bytes pos = .ok comesTo ∧
    (∃ turns, Runs bytes pos turns comesTo ∧ turns.Pairwise (· < ·) ∧
      turns.length ≤ bytes.length - pos + 1) ∧
    readKindsAt bytes = .ok (readKinds bytes) := by
  intro comesTo
  obtain ⟨t, turned, -⟩ := exists_turn bytes pos
  obtain ⟨turns, outcome, runs⟩ := exists_runs bytes pos
  obtain ⟨increasing, -, short⟩ := runs.advances
  obtain rfl : outcome = comesTo := runs.outcome_eq
  refine ⟨readAt_eq bytes pos, ?taken, ⟨t, turned⟩, fun kind next => advances_of_turn,
    readParametersAt_eq bytes pos, ⟨turns, runs, increasing, short⟩, readKindsAt_eq bytes⟩
  case taken =>
    intro kind next taken
    obtain ⟨begins, ends⟩ := advances_of_readAt taken
    refine ⟨begins, ends, ?void, ?legal, fun other start same => readAt_local taken same⟩
    case void =>
      rintro rfl
      rcases kind_of_readAt taken with lane | ⟨-, only, stands⟩
      · cases lane
      · exact ⟨only, stands⟩
    case legal =>
      rintro rfl
      rcases kind_of_readAt taken with lane | ⟨void, -⟩
      · cases lane
      · cases void

/-- An array of a class between two other parameters, and the same array alone. -/
theorem parameters_read_in_place_of_array :
    let bytes := "I[Lx;D)V".toList.map ascii
    let other := "[Lx;".toList.map ascii
    readAt bytes 1 = .ok (.ok (.object, 5)) ∧ readAt other 0 = .ok (.ok (.object, 4)) ∧
      ∃ turns outcome, Runs bytes 0 turns outcome ∧ turns.length ≤ 9 := by
  intro bytes other
  obtain ⟨front, framed, -⟩ := parameters_read_in_place bytes 1
  have taken : readAt bytes 1 = .ok (.ok (.object, 5)) := front.trans rfl
  obtain ⟨-, -, -, -, everywhere⟩ := framed .object 5 taken
  obtain ⟨-, -, -, -, -, ⟨turns, runs, -, short⟩, -⟩ := parameters_read_in_place bytes 0
  exact ⟨taken, everywhere other 0 rfl, turns, _, runs, short⟩

end Signature
end JitBridge
