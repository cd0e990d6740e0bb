import JitBridge.Panic
import JitBridge.Signature.Basic

/-!
Descriptors read at positions of one byte string. Where `FieldType.read` takes bytes from the front,
`FieldType.readAt` looks at a byte string from a position on, which may be any number, and answers
with the position behind what it has read. Bytes that are cut out of the string have to be there: a
range that starts behind its end panics.

Parameters are read by a loop, of which `Signature.turn` is one turn. A turn that takes a parameter
moves on within the bytes (`Signature.advances_of_turn`), so the loop ends.
-/

namespace JitBridge

namespace FieldType

/-- The bytes from a position on; panics if the position is behind the end. -/
def slice (bytes : List UInt8) (start : Nat) : Except Panic (List UInt8) :=
  if start ≤ bytes.length then .ok (bytes.drop start)
  else .error (.startOutOfRange start bytes.length)

/-- The first position, from one on, without a `[`. -/
def pastBrackets (bytes : List UInt8) (pos : Nat) : Nat :=
  if _bracket : bytes[pos]? = some (ascii '[') then pastBrackets bytes (pos + 1) else pos
termination_by bytes.length - pos
decreasing_by
  obtain ⟨inside, -⟩ := List.getElem?_eq_some_iff.mp _bracket
  omega

theorem le_pastBrackets (bytes : List UInt8) (pos : Nat) : pos ≤ pastBrackets bytes pos := by
  induction pos using pastBrackets.induct bytes with
  | case1 pos bracket ih =>
    rw [pastBrackets, dif_pos bracket]
    omega
  | case2 pos noBracket =>
    have stays : pastBrackets bytes pos = pos := by rw [pastBrackets, dif_neg noBracket]
    exact Nat.le_of_eq stays.symm

/-- Reads the class name that starts behind a position, and the `;` that ends it. -/
def readClassAt (bytes : List UInt8) (pos : Nat) : Except Panic (Except Malformed (Kind × Nat)) :=
  (slice bytes pos).map fun tail =>
    match tail.findIdx? (· == ascii ';') with
    | none => .error .unterminatedClass
    | some stop => if stop = 1 then .error .emptyClass else .ok (.object, pos + stop + 1)

/-- The array of a component that was read, whatever was left behind it. -/
def arrayOf {ρ : Type} : Except Malformed (Kind × ρ) → Except Malformed (Kind × ρ)
  | .error e => .error e
  | .ok (.void, _) => .error .arrayOfVoid
  | .ok (_, behind) => .ok (.object, behind)

/-- Reads one field type, `V` included, at a position, and answers with the position behind it. -/
def readAt (bytes : List UInt8) (pos : Nat) : Except Panic (Except Malformed (Kind × Nat)) :=
  match _found : bytes[pos]? with
  | none => .ok (.error .unexpectedEnd)
  | some b =>
    if b = ascii 'L' then readClassAt bytes pos
    else if b = ascii '[' then (readAt bytes (pastBrackets bytes (pos + 1))).map arrayOf
    else match Kind.ofTypeChar? (Char.ofNat b.toNat) with
      | some kind => .ok (.ok (kind, pos + 1))
      | none => .ok (.error .unknownType)
termination_by bytes.length - pos
decreasing_by
  obtain ⟨inside, -⟩ := List.getElem?_eq_some_iff.mp _found
  have := le_pastBrackets bytes (pos + 1)
  omega

/-- The position behind a class name comes later, within the bytes. -/
theorem advances_of_readClassAt {bytes : List UInt8} {pos : Nat} {kind : Kind} {next : Nat}
    (taken : readClassAt bytes pos = .ok (.ok (kind, next))) :
    pos < next ∧ next ≤ bytes.length := by
  unfold readClassAt slice at taken
  split at taken
  · rw [Except.map, Except.ok.injEq] at taken
    split at taken
    · cases taken
    · rename_i stop stopped
      split at taken
      · cases taken
      · cases taken
        obtain ⟨inside, -⟩ := List.findIdx?_eq_some_iff_getElem.mp stopped
        rw [List.length_drop] at inside
        omega
  · cases taken

/-- An array ends where its component ends. -/
theorem exists_component {ρ : Type} {component : Except Malformed (Kind × ρ)} {kind : Kind}
    {behind : ρ} (taken : arrayOf component = .ok (kind, behind)) :
    ∃ own, component = .ok (own, behind) := by
  unfold arrayOf at taken
  split at taken
  · cases taken
  · cases taken
  · cases taken
    exact ⟨_, rfl⟩

/-- The position behind a field type comes later, within the bytes. -/
theorem advances_of_readAt {bytes : List UInt8} {pos : Nat} {kind : Kind} {next : Nat}
    (taken : readAt bytes pos = .ok (.ok (kind, next))) : pos < next ∧ next ≤ bytes.length := by
  fun_induction readAt bytes pos generalizing kind with
  | case1 => cases taken
  | case2 => exact advances_of_readClassAt taken
  | case3 pos bracket noClass ih =>
    cases component : readAt bytes (pastBrackets bytes (pos + 1)) with
    | error p =>
      rw [component] at taken
      cases taken
    | ok found =>
      rw [component, Except.map, Except.ok.injEq] at taken
      obtain ⟨own, rfl⟩ := exists_component taken
      have passed := le_pastBrackets bytes (pos + 1)
      obtain ⟨begins, ends⟩ := ih component
      omega
  | case4 pos b standing =>
    obtain ⟨inside, -⟩ := List.getElem?_eq_some_iff.mp standing
    cases taken
    omega
  | case5 => cases taken

end FieldType

namespace Signature

/-- What one turn of the loop over the parameters comes to. -/
inductive Turn where
  /-- The parameters are closed; the position behind them. -/
  | closed (behind : Nat)
  /-- One more parameter; the position behind it. -/
  | parameter (kind : Kind) (behind : Nat)
  | failed (malformed : Malformed)
deriving DecidableEq, Repr

/-- The turn that a field type, or none, makes. -/
def Turn.take : Except Malformed (Kind × Nat) → Turn
  | .error malformed => .failed malformed
  | .ok (.void, _) => .failed .voidParameter
  | .ok (kind, behind) => .parameter kind behind

/-- The loop over the parameters, at a position. -/
def turn (bytes : List UInt8) (pos : Nat) : Except Panic Turn :=
  match bytes[pos]? with
  | none => .ok (.failed .missingClosing)
  | some b =>
    if b = FieldType.ascii ')' then .ok (.closed (pos + 1))
    else (FieldType.readAt bytes pos).map .take

/-- A turn that takes a parameter moves on, within the bytes. -/
theorem advances_of_turn {bytes : List UInt8} {pos : Nat} {kind : Kind} {next : Nat}
    (turned : turn bytes pos = .ok (.parameter kind next)) : pos < next ∧ next ≤ bytes.length := by
  unfold turn at turned
  split at turned
  · cases turned
  · split at turned
    · cases turned
    · cases taken : FieldType.readAt bytes pos with
      | error p =>
        rw [taken] at turned
        cases turned
      | ok found =>
        rw [taken, Except.map, Except.ok.injEq] at turned
        unfold Turn.take at turned
        split at turned
        · cases turned
        · cases turned
        · cases turned
          exact FieldType.advances_of_readAt taken

/-- Reads parameters at a position, up to the closing parenthesis, and answers with the position
behind it. -/
def readParametersAt (bytes : List UInt8) (pos : Nat) :
    Except Panic (Except Malformed (List Kind × Nat)) :=
  match _turned : turn bytes pos with
  | .error p => .error p
  | .ok (.closed behind) => .ok (.ok ([], behind))
  | .ok (.failed malformed) => .ok (.error malformed)
  | .ok (.parameter kind next) =>
    (readParametersAt bytes next).map (·.map fun (kinds, behind) => (kind :: kinds, behind))
termination_by bytes.length - pos
decreasing_by
  have := advances_of_turn _turned
  omega

/-- Reads parameter kinds and return kind at positions; the last has to be the end. -/
def readKindsAt (bytes : List UInt8) : Except Panic (Except Malformed (List Kind × Kind)) :=
  if bytes[0]? = some (FieldType.ascii '(') then
    match readParametersAt bytes 1 with
    | .error p => .error p
    | .ok (.error malformed) => .ok (.error malformed)
    | .ok (.ok (parameters, pos)) =>
      (FieldType.readAt bytes pos).map fun
        | .error malformed => .error malformed
        | .ok (returnKind, stop) =>
          if stop = bytes.length then .ok (parameters, returnKind) else .error .trailing
  else .ok (.error .expectedOpening)

/-- Reads a descriptor at positions; the error carries the descriptor and the reason. -/
def parseAt (descriptor : String) : Except Panic (Except Error Signature) :=
  (readKindsAt (bytesOf descriptor)).map fun
    | .error malformed => .error (.invalidSignature descriptor malformed.reason)
    | .ok (parameters, returnKind) => .ok ⟨descriptor, parameters, returnKind⟩

end Signature
end JitBridge
