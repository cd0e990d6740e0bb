import JitBridge.Proofs.Signature.Grammar

/-!
Signatures built from kinds, and what becomes of the descriptors that are written for them. The
field type written for a kind stands for that kind, so a written descriptor is read back as the
signature it was built from (`Signature.parse_ofKinds_of_passable`). A kind that no field type
stands for has a character all the same; the first one among the parameters decides how the reader
fails, and then the result.

The kinds of a descriptor that is read can all be written, so writing them gives a descriptor of the
same kinds, and writing those again gives the same text.
-/

namespace JitBridge

open FieldType

namespace Signature

/-! ### The bytes of a written descriptor -/

theorem bytesOf_append (first second : String) :
    bytesOf (first ++ second) = bytesOf first ++ bytesOf second := by
  simp [bytesOf]

/-- The bytes of the field types of some parameters. -/
def writtenBytes (kinds : List Kind) : List UInt8 :=
  kinds.flatMap fun kind => bytesOf kind.fieldType

theorem bytesOf_join (kinds : List Kind) :
    bytesOf (String.join (kinds.map Kind.fieldType)) = writtenBytes kinds := by
  induction kinds with
  | nil => rfl
  | cons kind kinds ih =>
    rw [List.map_cons, String.join_cons, bytesOf_append, ih, writtenBytes, writtenBytes,
      List.flatMap_cons]

theorem bytesOf_ofKinds (parameters : List Kind) (returnKind : Kind) :
    bytesOf (ofKinds parameters returnKind).descriptor =
      ascii '(' :: (writtenBytes parameters ++ ascii ')' :: bytesOf returnKind.fieldType) := by
  have opening : bytesOf "(" = [ascii '('] := by decide
  have closing : bytesOf ")" = [ascii ')'] := by decide
  rw [ofKinds, bytesOf_append, bytesOf_append, bytesOf_append, bytesOf_join, opening, closing]
  simp

/-! ### Kinds that are written are read back -/

/-- All kinds but `object` are written as their character. -/
theorem bytesOf_fieldType (kind : Kind) (primitive : kind ≠ .object) :
    bytesOf kind.fieldType = [ascii kind.typeChar] := by
  revert primitive
  cases kind <;> decide

/-- The field type written for a kind stands for it. -/
theorem denotes_fieldType {kind : Kind} (lane : kind.lane.isSome) :
    FieldType.Denotes (bytesOf kind.fieldType) kind := by
  by_cases object : kind = .object
  · subst object
    have written : bytesOf Kind.object.fieldType =
        ascii 'L' :: (bytesOf "java/lang/Object" ++ [ascii ';']) := by decide
    rw [written]
    exact .reference (by decide) (by decide)
  · rw [bytesOf_fieldType kind object]
    apply FieldType.Denotes.primitive
    revert lane object
    cases kind <;> decide

theorem denotesResult_fieldType {kind : Kind} (legal : kind ≠ .illegal) :
    DenotesResult (bytesOf kind.fieldType) kind := by
  by_cases void : kind = .void
  · subst void
    rw [bytesOf_fieldType .void nofun]
    exact .void
  · exact .value (denotes_fieldType (Kind.lane_isSome_iff.mpr ⟨void, legal⟩))

theorem denotesAll_writtenBytes {kinds : List Kind} (lanes : ∀ kind ∈ kinds, kind.lane.isSome) :
    DenotesAll (writtenBytes kinds) kinds := by
  induction kinds with
  | nil => exact .nil
  | cons kind kinds ih =>
    obtain ⟨lane, lanes⟩ := List.forall_mem_cons.mp lanes
    exact .cons (denotes_fieldType lane) (ih lanes)

/-- A signature of kinds that can be passed is read back from its descriptor. -/
theorem parse_ofKinds_of_passable {parameters : List Kind} {returnKind : Kind}
    (lanes : ∀ kind ∈ parameters, kind.lane.isSome) (legal : returnKind ≠ .illegal) :
    parse (ofKinds parameters returnKind).descriptor = .ok (ofKinds parameters returnKind) := by
  rw [parse_eq_ok_iff, bytesOf_ofKinds]
  exact ⟨rfl, .method (denotesAll_writtenBytes lanes) (denotesResult_fieldType legal)⟩

/-! ### Kinds that no field type stands for -/

/-- What is written for kinds that can be passed is taken from the front of a parameter list. -/
theorem readParameters_writtenBytes {kinds : List Kind} (lanes : ∀ kind ∈ kinds, kind.lane.isSome)
    (rest : List UInt8) :
    readParameters (writtenBytes kinds ++ rest) =
      match readParameters rest with
      | .error e => .error e
      | .ok (more, rest) => .ok (kinds ++ more, rest) := by
  induction kinds with
  | nil =>
    show readParameters rest = _
    cases readParameters rest with
    | error e => rfl
    | ok read => rfl
  | cons kind kinds ih =>
    obtain ⟨lane, lanes⟩ := List.forall_mem_cons.mp lanes
    rw [writtenBytes, List.flatMap_cons, List.append_assoc,
      readParameters_append (denotes_fieldType lane), ← writtenBytes, ih lanes]
    cases readParameters rest with
    | error e => rfl
    | ok read => rfl

/-- How the reader fails on a kind that cannot be passed. -/
def refusal : Kind → Malformed
  | .void => .voidParameter
  | _ => .unknownType

/-- The reader of parameters gives up at a kind that cannot be passed. -/
theorem readParameters_of_no_lane {kind : Kind} (missing : kind.lane = none) (rest : List UInt8) :
    readParameters (bytesOf kind.fieldType ++ rest) = .error (refusal kind) := by
  rcases Kind.lane_eq_none_iff.mp missing with rfl | rfl
  · rw [bytesOf_fieldType .void nofun]
    exact readParameters_of_read_void (by decide) rfl
  · rw [bytesOf_fieldType .illegal nofun]
    exact readParameters_of_read_error (by decide) rfl

/-- The first parameter that cannot be passed decides how the descriptor is refused. -/
theorem parse_ofKinds_of_no_lane {before after : List Kind} {kind returnKind : Kind}
    (lanes : ∀ earlier ∈ before, earlier.lane.isSome) (missing : kind.lane = none) :
    let written := (ofKinds (before ++ kind :: after) returnKind).descriptor
    parse written = .error (.invalidSignature written (refusal kind).reason) := by
  intro written
  have parameters : readParameters (writtenBytes (before ++ kind :: after) ++
      ascii ')' :: bytesOf returnKind.fieldType) = .error (refusal kind) := by
    rw [writtenBytes, List.flatMap_append, List.flatMap_cons, ← writtenBytes, List.append_assoc,
      List.append_assoc, readParameters_writtenBytes lanes, readParameters_of_no_lane missing]
  have kinds : readKinds (bytesOf written) = .error (refusal kind) := by
    rw [bytesOf_ofKinds, readKinds, if_pos rfl, parameters]
  exact parse_eq_error_iff.mpr ⟨_, kinds, rfl⟩

/-- A result that no field type stands for is refused after all parameters are read. -/
theorem parse_ofKinds_of_illegal {parameters : List Kind}
    (lanes : ∀ kind ∈ parameters, kind.lane.isSome) :
    let written := (ofKinds parameters .illegal).descriptor
    parse written = .error (.invalidSignature written Malformed.unknownType.reason) := by
  intro written
  have last : FieldType.read (bytesOf Kind.illegal.fieldType) = .error .unknownType := rfl
  have kinds : readKinds (bytesOf written) = .error .unknownType := by
    rw [bytesOf_ofKinds, readKinds, if_pos rfl,
      readParameters_of_denotes (denotesAll_writtenBytes lanes)]
    simp only [last]
  exact parse_eq_error_iff.mpr ⟨_, kinds, rfl⟩

/-- Whatever is built from kinds that cannot be written is refused. -/
theorem exists_refusal {parameters : List Kind} {returnKind : Kind}
    (outside : ¬ ((∀ kind ∈ parameters, kind.lane.isSome) ∧ returnKind ≠ .illegal)) :
    let written := (ofKinds parameters returnKind).descriptor
    ∃ reason, parse written = .error (.invalidSignature written reason) := by
  intro written
  by_cases lanes : ∀ kind ∈ parameters, kind.lane.isSome
  · have illegal : returnKind = .illegal :=
      Decidable.of_not_not fun legal => outside ⟨lanes, legal⟩
    subst illegal
    exact ⟨_, parse_ofKinds_of_illegal lanes⟩
  · obtain ⟨before, kind, after, rfl, lanes, missing⟩ := Kind.exists_first_without_lane lanes
    exact ⟨_, parse_ofKinds_of_no_lane lanes missing⟩

/-- The kinds of a descriptor that is read can be written, and what is written for them is read as
the same kinds. -/
theorem parse_ofKinds_of_parse {descriptor : String} {signature : Signature}
    (parsed : parse descriptor = .ok signature) :
    parse (ofKinds signature.parameters signature.returnKind).descriptor =
      .ok (ofKinds signature.parameters signature.returnKind) := by
  obtain ⟨-, denotes⟩ := parse_eq_ok_iff.mp parsed
  obtain ⟨lanes, legal, -⟩ := passable_of_denotes denotes
  exact parse_ofKinds_of_passable lanes legal

/-- A signature that is built from kinds is read back from its descriptor exactly if its parameters
can be passed and its result is legal. Otherwise the leftmost kind that cannot be written decides
the reason: `void` among the parameters is told apart from all others. For a descriptor that is
read, the descriptor written for its kinds stands for the same kinds, and is written for them again.
-/
theorem parse_ofKinds_eq_ok_iff (parameters : List Kind) (returnKind : Kind) :
    let built := ofKinds parameters returnKind
    let failsWith := fun reason : String =>
      parse built.descriptor = .error (.invalidSignature built.descriptor reason)
    (parse built.descriptor = .ok built ↔
      (∀ kind ∈ parameters, kind ≠ .void ∧ kind ≠ .illegal) ∧ returnKind ≠ .illegal) ∧
    ((∃ reason, failsWith reason) ↔
      ¬ ((∀ kind ∈ parameters, kind ≠ .void ∧ kind ≠ .illegal) ∧ returnKind ≠ .illegal)) ∧
    (∀ before kind after, parameters = before ++ kind :: after →
      (∀ earlier ∈ before, earlier ≠ .void ∧ earlier ≠ .illegal) →
      (kind = .void → failsWith "void parameter") ∧
      (kind = .illegal → failsWith "unknown type character")) ∧
    ((∀ kind ∈ parameters, kind ≠ .void ∧ kind ≠ .illegal) → returnKind = .illegal →
      failsWith "unknown type character") ∧
    ∀ descriptor signature, parse descriptor = .ok signature →
      let canonical := ofKinds signature.parameters signature.returnKind
      ∃ reread, parse canonical.descriptor = .ok reread ∧
        reread.parameters = signature.parameters ∧ reread.returnKind = signature.returnKind ∧
        (ofKinds reread.parameters reread.returnKind).descriptor = canonical.descriptor := by
  intro built failsWith
  have lanes_iff : ∀ kinds : List Kind, (∀ kind ∈ kinds, kind ≠ .void ∧ kind ≠ .illegal) ↔
      ∀ kind ∈ kinds, kind.lane.isSome := by
    intro kinds
    simp only [Kind.lane_isSome_iff]
  simp only [lanes_iff]
  have accepted : (∀ kind ∈ parameters, kind.lane.isSome) ∧ returnKind ≠ .illegal →
      parse built.descriptor = .ok built := by
    rintro ⟨lanes, legal⟩
    exact parse_ofKinds_of_passable lanes legal
  refine ⟨⟨?_, accepted⟩, ⟨?_, exists_refusal⟩, ?_, ?_, ?_⟩
  · intro parsed
    obtain ⟨-, denotes⟩ := parse_eq_ok_iff.mp parsed
    obtain ⟨lanes, legal, -⟩ := passable_of_denotes denotes
    exact ⟨lanes, legal⟩
  · rintro ⟨reason, failed⟩ passable
    have parsed := accepted passable
    rw [failed] at parsed
    cases parsed
  · rintro before kind after rfl lanes
    constructor
    · rintro rfl
      exact parse_ofKinds_of_no_lane lanes rfl
    · rintro rfl
      exact parse_ofKinds_of_no_lane lanes rfl
  · rintro lanes rfl
    exact parse_ofKinds_of_illegal lanes
  · intro descriptor signature parsed
    exact ⟨_, parse_ofKinds_of_parse parsed, rfl, rfl, rfl⟩

/-- An array is written as the root class, and a `void` before an illegal kind decides the reason.
-/
theorem parse_ofKinds_of_array :
    (∃ signature, parse "([[I)V" = .ok signature) ∧
    (∃ reread, parse "(Ljava/lang/Object;)V" = .ok reread ∧ reread.parameters = [.object]) ∧
    parse "(IV-)-" = .error (.invalidSignature "(IV-)-" "void parameter") := by
  have int : FieldType.Denotes [ascii 'I'] .int := .primitive (by decide)
  have parsed : parse "([[I)V" = .ok ⟨"([[I)V", [.object], .void⟩ :=
    parse_eq_ok_iff.mpr ⟨rfl, .method (.cons (.array (.array int)) .nil) .void⟩
  obtain ⟨-, -, first, -, again⟩ := parse_ofKinds_eq_ok_iff [.int, .void, .illegal] .illegal
  obtain ⟨reread, found, parameters, -⟩ := again _ _ parsed
  have reason := (first [.int] .void [.illegal] rfl (by decide)).1 rfl
  exact ⟨⟨_, parsed⟩, ⟨reread, found, parameters⟩, reason⟩

end Signature
end JitBridge
