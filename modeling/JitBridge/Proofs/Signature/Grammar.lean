import JitBridge.Signature.Basic

/-!
The grammar of method descriptors, as a relation between texts and the kinds they stand for:

  M = '(' T* ')' R        R = T | 'V'
  T = 'Z' | 'B' | 'S' | 'C' | 'I' | 'J' | 'F' | 'D' | 'L' name ';' | '[' T

where a name is any non-empty text without ';'. Nothing here mentions the reader: the relations say
what a text means, and `read_append`, `denotes_of_read` and their likes for parameter lists say that
the reader takes exactly the texts with a meaning, whatever follows them. So a text is read as a
signature exactly if it is in the grammar (`Signature.parse_eq_ok_iff`).
-/

namespace JitBridge

namespace FieldType

/-- The characters that stand for a kind on their own. -/
def primitives : List (Char × Kind) :=
  [('Z', .boolean), ('B', .byte), ('S', .short), ('C', .char), ('I', .int), ('J', .long),
    ('F', .float), ('D', .double)]

/-- The field types `T`, and the kinds they stand for. -/
inductive Denotes : List UInt8 → Kind → Prop where
  | primitive {c : Char} {kind : Kind} : (c, kind) ∈ primitives → Denotes [ascii c] kind
  | reference {name : List UInt8} : name ≠ [] → ascii ';' ∉ name →
      Denotes (ascii 'L' :: (name ++ [ascii ';'])) .object
  | array {component : List UInt8} {kind : Kind} : Denotes component kind →
      Denotes (ascii '[' :: component) .object

/-- The result types `R`, and the kinds they stand for. -/
inductive DenotesResult : List UInt8 → Kind → Prop where
  | void : DenotesResult [ascii 'V'] .void
  | value {text : List UInt8} {kind : Kind} : Denotes text kind → DenotesResult text kind

/-- The parameter lists `T*`, and the kinds they stand for. -/
inductive DenotesAll : List UInt8 → List Kind → Prop where
  | nil : DenotesAll [] []
  | cons {text texts : List UInt8} {kind : Kind} {kinds : List Kind} :
      Denotes text kind → DenotesAll texts kinds → DenotesAll (text ++ texts) (kind :: kinds)

/-! ### Characters -/

/-- A byte is the byte of the character with its number. -/
theorem ascii_ofNat (b : UInt8) : ascii (Char.ofNat b.toNat) = b := by
  have small : b.toNat < 256 := b.toNat_lt
  have valid : b.toNat.isValidChar := .inl (by omega)
  rw [ascii, Char.ofNat, dif_pos valid]
  exact UInt8.ofNat_toNat

theorem ofTypeChar?_eq_some_iff {c : Char} {kind : Kind} :
    Kind.ofTypeChar? c = some kind ↔ c = 'V' ∧ kind = .void ∨ (c, kind) ∈ primitives := by
  constructor
  · intro found
    unfold Kind.ofTypeChar? at found
    split at found
    case h_10 => cases found
    all_goals
      cases found
      simp [primitives]
  · rintro (⟨rfl, rfl⟩ | mem)
    · rfl
    · simp only [primitives, List.mem_cons, Prod.mk.injEq, List.not_mem_nil, or_false] at mem
      rcases mem with ⟨rfl, rfl⟩ | ⟨rfl, rfl⟩ | ⟨rfl, rfl⟩ | ⟨rfl, rfl⟩ | ⟨rfl, rfl⟩ | ⟨rfl, rfl⟩ |
        ⟨rfl, rfl⟩ | ⟨rfl, rfl⟩ <;> rfl

/-- The characters of primitive kinds open no class and no array, and end no parameter list. -/
theorem ascii_of_mem_primitives {c : Char} {kind : Kind} (mem : (c, kind) ∈ primitives) :
    ascii c ≠ ascii 'L' ∧ ascii c ≠ ascii '[' ∧ ascii c ≠ ascii ')' ∧
      Kind.ofTypeChar? (Char.ofNat (ascii c).toNat) = some kind ∧ kind.lane.isSome := by
  have checked : ∀ entry ∈ primitives,
      ascii entry.1 ≠ ascii 'L' ∧ ascii entry.1 ≠ ascii '[' ∧ ascii entry.1 ≠ ascii ')' ∧
        Kind.ofTypeChar? (Char.ofNat (ascii entry.1).toNat) = some entry.2 ∧
        entry.2.lane.isSome := by
    decide
  exact checked _ mem

/-- A field type stands for a kind that can be passed. -/
theorem isSome_lane_of_denotes {text : List UInt8} {kind : Kind} (denotes : Denotes text kind) :
    kind.lane.isSome := by
  cases denotes with
  | primitive mem => exact (ascii_of_mem_primitives mem).2.2.2.2
  | reference _ _ => rfl
  | array _ => rfl

theorem ne_void_of_denotes {text : List UInt8} {kind : Kind} (denotes : Denotes text kind) :
    kind ≠ .void :=
  (Kind.lane_isSome_iff.mp (isSome_lane_of_denotes denotes)).1

/-- A field type starts with a byte that ends no parameter list. -/
theorem exists_cons_of_denotes {text : List UInt8} {kind : Kind} (denotes : Denotes text kind) :
    ∃ b rest, text = b :: rest ∧ b ≠ ascii ')' := by
  cases denotes with
  | primitive mem => exact ⟨_, _, rfl, (ascii_of_mem_primitives mem).2.2.1⟩
  | reference _ _ => exact ⟨_, _, rfl, by decide⟩
  | array _ => exact ⟨_, _, rfl, by decide⟩

/-- A parameter list stands for kinds that can be passed, and has a byte for each of them. -/
theorem passable_of_denotesAll {texts : List UInt8} {kinds : List Kind}
    (denotes : DenotesAll texts kinds) :
    (∀ kind ∈ kinds, kind.lane.isSome) ∧ kinds.length ≤ texts.length := by
  induction denotes with
  | nil => exact ⟨by simp, Nat.le_refl _⟩
  | cons first _ ih =>
    obtain ⟨lanes, short⟩ := ih
    obtain ⟨b, rest, rfl, -⟩ := exists_cons_of_denotes first
    constructor
    · intro kind mem
      rcases List.mem_cons.mp mem with rfl | later
      · exact isSome_lane_of_denotes first
      · exact lanes kind later
    · simp only [List.length_append, List.length_cons]
      omega

/-! ### The reader takes exactly the texts of the grammar -/

/-- A class name is read up to the first `;`. -/
theorem readClass_append {name : List UInt8} (nonempty : name ≠ []) (closed : ascii ';' ∉ name)
    (rest : List UInt8) : readClass (name ++ ascii ';' :: rest) = .ok (.object, rest) := by
  have passed : ∀ b ∈ name, (b != ascii ';') = true := by
    intro b mem
    rw [bne_iff_ne]
    exact fun same => closed (same ▸ mem)
  have dropped : (name ++ ascii ';' :: rest).dropWhile (· != ascii ';') = ascii ';' :: rest := by
    rw [List.dropWhile_append_of_pos passed]
    simp
  have opens : (name ++ ascii ';' :: rest).head? ≠ some (ascii ';') := by
    cases name with
    | nil => exact absurd rfl nonempty
    | cons b name => simpa using fun same => closed (List.mem_cons.mpr (.inl (Eq.symm same)))
  simp only [readClass, dropped, if_neg opens]

/-- What is read as a class is a name and the `;` that ends it. -/
theorem eq_append_of_readClass {bytes rest : List UInt8} {kind : Kind}
    (taken : readClass bytes = .ok (kind, rest)) :
    kind = .object ∧ ∃ name, bytes = name ++ ascii ';' :: rest ∧ name ≠ [] ∧ ascii ';' ∉ name := by
  unfold readClass at taken
  split at taken
  · cases taken
  · rename_i stop tail dropped
    split at taken
    · cases taken
    · rename_i opens
      cases taken
      have whole := List.takeWhile_append_dropWhile (p := (· != ascii ';')) (l := bytes)
      have stops := List.head?_dropWhile_not (· != ascii ';') bytes
      rw [dropped] at whole stops
      have stops : stop = ascii ';' := by simpa using stops
      subst stops
      refine ⟨rfl, bytes.takeWhile (· != ascii ';'), whole.symm, ?_, fun mem => ?_⟩
      · intro empty
        apply opens
        rw [empty, List.nil_append] at whole
        rw [← whole]
        rfl
      · have passed := List.all_eq_true.mp List.all_takeWhile _ mem
        simp at passed

/-- A field type is taken from the front of a text, whatever follows. -/
theorem read_append {text : List UInt8} {kind : Kind} (denotes : Denotes text kind)
    (rest : List UInt8) : read (text ++ rest) = .ok (kind, rest) := by
  induction denotes with
  | primitive mem =>
    obtain ⟨noClass, noArray, -, found, -⟩ := ascii_of_mem_primitives mem
    simp only [List.singleton_append, read, if_neg noClass, if_neg noArray, found]
  | reference nonempty closed =>
    simp only [List.cons_append, List.append_assoc, List.nil_append, read, if_pos,
      readClass_append nonempty closed rest]
  | @array _ kind component ih =>
    have noClass : ascii '[' ≠ ascii 'L' := by decide
    -- The match goes past the case of `void` because of this.
    have value : kind ≠ .void := ne_void_of_denotes component
    simp only [List.cons_append, read, if_neg noClass, if_pos, ih]

theorem read_append_of_result {text : List UInt8} {kind : Kind} (denotes : DenotesResult text kind)
    (rest : List UInt8) : read (text ++ rest) = .ok (kind, rest) := by
  cases denotes with
  | void => rfl
  | value denotes => exact read_append denotes rest

/-- What is taken from the front of a text is a field type, or `V`. -/
theorem denotes_of_read {bytes rest : List UInt8} {kind : Kind}
    (taken : read bytes = .ok (kind, rest)) :
    ∃ text, bytes = text ++ rest ∧ DenotesResult text kind := by
  induction bytes generalizing kind rest with
  | nil => cases taken
  | cons b tail ih =>
    simp only [read] at taken
    split at taken
    · rename_i same
      obtain ⟨rfl, name, rfl, nonempty, closed⟩ := eq_append_of_readClass taken
      exact ⟨_, by simp [same], .value (.reference nonempty closed)⟩
    · split at taken
      · rename_i same
        split at taken
        · cases taken
        · cases taken
        · rename_i component tail' value read_tail
          cases taken
          obtain ⟨text, rfl, denotes⟩ := ih read_tail
          cases denotes with
          | void => exact absurd rfl value
          | value denotes => exact ⟨_, by simp [same], .value (.array denotes)⟩
      · split at taken
        · rename_i found
          cases taken
          rw [← ascii_ofNat b]
          rcases ofTypeChar?_eq_some_iff.mp found with ⟨isV, rfl⟩ | mem
          · exact ⟨[ascii 'V'], by rw [isV]; rfl, .void⟩
          · exact ⟨_, rfl, .value (.primitive mem)⟩
        · cases taken

end FieldType

namespace Signature

open FieldType

/-- The method descriptors `M`, and the parameters and the result they stand for. -/
inductive Denotes : List UInt8 → List Kind → Kind → Prop where
  | method {texts text : List UInt8} {parameters : List Kind} {returnKind : Kind} :
      DenotesAll texts parameters → DenotesResult text returnKind →
      Denotes (ascii '(' :: (texts ++ ascii ')' :: text)) parameters returnKind

/-- A descriptor stands for parameters that can be passed and a legal result, and is longer than its
parameter list. -/
theorem passable_of_denotes {bytes : List UInt8} {parameters : List Kind} {returnKind : Kind}
    (denotes : Denotes bytes parameters returnKind) :
    (∀ kind ∈ parameters, kind.lane.isSome) ∧ returnKind ≠ .illegal ∧
      parameters.length < bytes.length := by
  obtain ⟨all, result⟩ := denotes
  obtain ⟨lanes, short⟩ := passable_of_denotesAll all
  refine ⟨lanes, ?_, ?_⟩
  · cases result with
    | void => exact nofun
    | value value => exact (Kind.lane_isSome_iff.mp (isSome_lane_of_denotes value)).2
  · simp only [List.length_cons, List.length_append]
    omega

/-! ### Parameter lists -/

section ParameterSteps

variable {b : UInt8} {tail rest : List UInt8} (inside : b ≠ ascii ')')

include inside

theorem readParameters_of_read_error {e : Malformed}
    (failed : FieldType.read (b :: tail) = .error e) : readParameters (b :: tail) = .error e := by
  rw [readParameters, if_neg inside]
  split
  · rename_i found
    rw [failed] at found
    cases found
    rfl
  · rename_i found
    rw [failed] at found
    cases found
  · rename_i found
    rw [failed] at found
    cases found

theorem readParameters_of_read_void (taken : FieldType.read (b :: tail) = .ok (.void, rest)) :
    readParameters (b :: tail) = .error .voidParameter := by
  rw [readParameters, if_neg inside]
  split
  · rename_i found
    rw [taken] at found
    cases found
  · rfl
  · rename_i value found
    rw [taken] at found
    cases found
    exact absurd rfl value

theorem readParameters_of_read {kind : Kind} (value : kind ≠ .void)
    (taken : FieldType.read (b :: tail) = .ok (kind, rest)) :
    readParameters (b :: tail) =
      match readParameters rest with
      | .error e => .error e
      | .ok (kinds, rest) => .ok (kind :: kinds, rest) := by
  rw [readParameters, if_neg inside]
  split
  · rename_i found
    rw [taken] at found
    cases found
  · rename_i found
    rw [taken] at found
    cases found
    exact absurd rfl value
  · rename_i found
    rw [taken] at found
    cases found
    rfl

end ParameterSteps

/-- A parameter is read before the parameters that follow it. -/
theorem readParameters_append {text : List UInt8} {kind : Kind}
    (denotes : FieldType.Denotes text kind) (rest : List UInt8) :
    readParameters (text ++ rest) =
      match readParameters rest with
      | .error e => .error e
      | .ok (kinds, rest) => .ok (kind :: kinds, rest) := by
  have taken := read_append denotes rest
  obtain ⟨b, tail, rfl, inside⟩ := exists_cons_of_denotes denotes
  exact readParameters_of_read inside (ne_void_of_denotes denotes) taken

theorem readParameters_of_denotes {texts : List UInt8} {kinds : List Kind}
    (denotes : DenotesAll texts kinds) (rest : List UInt8) :
    readParameters (texts ++ ascii ')' :: rest) = .ok (kinds, rest) := by
  induction denotes with
  | nil => rw [List.nil_append, readParameters, if_pos rfl]
  | cons first _ ih => rw [List.append_assoc, readParameters_append first, ih]

/-- What is read as parameters is a list of field types and the `)` that ends it. -/
theorem denotes_of_readParameters {bytes rest : List UInt8} {kinds : List Kind}
    (taken : readParameters bytes = .ok (kinds, rest)) :
    ∃ texts, bytes = texts ++ ascii ')' :: rest ∧ DenotesAll texts kinds := by
  fun_induction readParameters bytes generalizing kinds rest with
  | case1 => cases taken
  | case2 tail =>
    cases taken
    exact ⟨[], rfl, .nil⟩
  | case3 => cases taken
  | case4 => cases taken
  | case5 => cases taken
  | case6 b tail inside kind rest' value first kinds' rest'' later ih =>
    cases taken
    obtain ⟨text, same, denotes⟩ := denotes_of_read first
    obtain ⟨texts, rfl, all⟩ := ih later
    cases denotes with
    | void => exact absurd rfl value
    | value denotes => exact ⟨text ++ texts, by rw [same, List.append_assoc], .cons denotes all⟩

/-! ### Descriptors -/

/-- Kinds are read from a text exactly if it is a descriptor that stands for them. -/
theorem readKinds_eq_ok_iff {bytes : List UInt8} {parameters : List Kind} {returnKind : Kind} :
    readKinds bytes = .ok (parameters, returnKind) ↔ Denotes bytes parameters returnKind := by
  constructor
  · intro taken
    cases bytes with
    | nil => cases taken
    | cons b tail =>
      simp only [readKinds] at taken
      split at taken
      · rename_i opens
        split at taken
        · cases taken
        · rename_i found
          obtain ⟨texts, rfl, all⟩ := denotes_of_readParameters found
          split at taken
          · cases taken
          · rename_i last
            cases taken
            obtain ⟨text, rfl, result⟩ := denotes_of_read last
            rw [opens, List.append_nil]
            exact .method all result
          · cases taken
      · cases taken
  · rintro ⟨all, result⟩
    have last := read_append_of_result result []
    rw [List.append_nil] at last
    simp only [readKinds, if_pos, readParameters_of_denotes all, last]

variable {descriptor : String}

theorem parse_eq_ok_iff {signature : Signature} :
    parse descriptor = .ok signature ↔
      signature.descriptor = descriptor ∧
        Denotes (bytesOf descriptor) signature.parameters signature.returnKind := by
  constructor
  · intro parsed
    unfold parse read at parsed
    split at parsed
    · cases parsed
    · rename_i kinds
      cases parsed
      exact ⟨rfl, readKinds_eq_ok_iff.mp kinds⟩
  · rintro ⟨same, denotes⟩
    rw [parse, read, readKinds_eq_ok_iff.mpr denotes]
    cases signature
    cases same
    rfl

/-- A text is refused for the reason for which its kinds are. -/
theorem parse_eq_error_iff {reason : String} :
    parse descriptor = .error (.invalidSignature descriptor reason) ↔
      ∃ malformed, readKinds (bytesOf descriptor) = .error malformed ∧
        malformed.reason = reason := by
  unfold parse read
  cases kinds : readKinds (bytesOf descriptor) with
  | error malformed =>
    show Except.error (Error.invalidSignature descriptor malformed.reason) = _ ↔ _
    simp
  | ok found =>
    show Except.ok _ = Except.error _ ↔ _
    simp

theorem exists_parse_error
    (outside : ¬ ∃ parameters returnKind, Denotes (bytesOf descriptor) parameters returnKind) :
    ∃ malformed : Malformed,
      parse descriptor = .error (.invalidSignature descriptor malformed.reason) := by
  cases kinds : readKinds (bytesOf descriptor) with
  | error malformed => exact ⟨malformed, parse_eq_error_iff.mpr ⟨malformed, kinds, rfl⟩⟩
  | ok found => exact absurd ⟨_, _, readKinds_eq_ok_iff.mp kinds⟩ outside

/-- A text is read as a signature exactly if it is a descriptor of the grammar. The signature then
carries the text itself and the kinds that it stands for; every other text is an invalid signature,
and the error carries the text. -/
theorem parse_eq_ok_iff_denotes (descriptor : String) :
    ((∃ signature, parse descriptor = .ok signature) ↔
      ∃ parameters returnKind, Denotes (bytesOf descriptor) parameters returnKind) ∧
    (∀ signature, parse descriptor = .ok signature ↔
      signature.descriptor = descriptor ∧
        Denotes (bytesOf descriptor) signature.parameters signature.returnKind) ∧
    ((¬ ∃ parameters returnKind, Denotes (bytesOf descriptor) parameters returnKind) ↔
      ∃ malformed : Malformed,
        parse descriptor = .error (.invalidSignature descriptor malformed.reason)) := by
  have accepted : (∃ signature, parse descriptor = .ok signature) ↔
      ∃ parameters returnKind, Denotes (bytesOf descriptor) parameters returnKind := by
    constructor
    · rintro ⟨signature, parsed⟩
      exact ⟨_, _, (parse_eq_ok_iff.mp parsed).2⟩
    · rintro ⟨parameters, returnKind, denotes⟩
      exact ⟨⟨descriptor, parameters, returnKind⟩, parse_eq_ok_iff.mpr ⟨rfl, denotes⟩⟩
  refine ⟨accepted, fun signature => parse_eq_ok_iff, exists_parse_error, ?_⟩
  rintro ⟨malformed, failed⟩ denotes
  obtain ⟨signature, parsed⟩ := accepted.mpr denotes
  rw [failed] at parsed
  cases parsed

end Signature
end JitBridge
