import JitBridge.Proofs.Signature.RoundTrip

/-!
Texts that stop too early. A reader that fails at the end of its text has seen the beginning of a
descriptor; a reader that fails anywhere else has seen what no further text can mend. Each reader
gets three lemmas that say so: what it takes and the other ways in which it fails stay the same when
the text goes on (`read_append_of_ok`, `read_append_of_error`), and a text at whose end it fails can
be completed (`exists_completion`).

Together they make the reason for which a text is refused tell whether it is the beginning of a
descriptor (`Signature.exists_parse_append`, `Signature.exists_truncation`), and no descriptor is
the beginning of another one.
-/

namespace JitBridge

/-- The text stopped before the descriptor did. -/
def Malformed.isTruncation : Malformed → Bool
  | missingClosing | unexpectedEnd | unterminatedClass => true
  | _ => false

/-- Truncation shows in the reason. -/
theorem Malformed.reason_mem_iff {malformed : Malformed} :
    malformed.reason ∈
        ["missing ')'", "unterminated class name", "unexpected end of descriptor"] ↔
      malformed.isTruncation = true := by
  cases malformed <;> simp [reason, isTruncation]

open Signature (bytesOf)

namespace FieldType

/-! ### Field types -/

section

variable {bytes rest : List UInt8} {kind : Kind} {e : Malformed}

/-- What was taken from a text is taken from every longer one. -/
theorem read_append_of_ok (taken : read bytes = .ok (kind, rest)) (more : List UInt8) :
    read (bytes ++ more) = .ok (kind, rest ++ more) := by
  obtain ⟨text, rfl, denotes⟩ := denotes_of_read taken
  rw [List.append_assoc]
  exact read_append_of_result denotes (rest ++ more)

/-- A class name is unterminated if there is no `;`, and empty if the `;` comes at once. -/
theorem readClass_eq_error (failed : readClass bytes = .error e) :
    e = .unterminatedClass ∧ ascii ';' ∉ bytes ∨
      e = .emptyClass ∧ ∃ tail, bytes = ascii ';' :: tail := by
  unfold readClass at failed
  split at failed
  · rename_i dropped
    cases failed
    left
    refine ⟨rfl, fun mem => ?_⟩
    have whole := List.takeWhile_append_dropWhile (p := (· != ascii ';')) (l := bytes)
    rw [dropped, List.append_nil] at whole
    rw [← whole] at mem
    have passed := List.all_eq_true.mp List.all_takeWhile _ mem
    simp at passed
  · split at failed
    · rename_i opens
      cases failed
      right
      exact ⟨rfl, List.head?_eq_some_iff.mp opens⟩
    · cases failed

theorem readClass_append_of_error (failed : readClass bytes = .error e)
    (final : e.isTruncation = false) (more : List UInt8) :
    readClass (bytes ++ more) = .error e := by
  rcases readClass_eq_error failed with ⟨rfl, -⟩ | ⟨rfl, tail, rfl⟩
  · cases final
  · simp [readClass]

/-- A failure before the end of a text is the failure of every longer one. -/
theorem read_append_of_error (failed : read bytes = .error e) (final : e.isTruncation = false)
    (more : List UInt8) : read (bytes ++ more) = .error e := by
  induction bytes generalizing e with
  | nil =>
    cases failed
    cases final
  | cons b tail ih =>
    rw [List.cons_append]
    simp only [read] at failed ⊢
    by_cases opensClass : b = ascii 'L'
    · rw [if_pos opensClass] at failed ⊢
      exact readClass_append_of_error failed final more
    · rw [if_neg opensClass] at failed ⊢
      by_cases opensArray : b = ascii '['
      · rw [if_pos opensArray] at failed ⊢
        cases component : read tail with
        | error inner =>
          rw [component] at failed
          cases failed
          rw [ih component final]
        | ok taken =>
          obtain ⟨kind, rest⟩ := taken
          rw [component] at failed
          rw [read_append_of_ok component more]
          cases kind with
          | void => exact failed
          | _ => cases failed
      · rw [if_neg opensArray] at failed ⊢
        cases found : Kind.ofTypeChar? (Char.ofNat b.toNat) with
        | none =>
          rw [found] at failed
          exact failed
        | some kind =>
          rw [found] at failed
          cases failed

/-- A text at whose end the reader fails is the beginning of a field type: an open class name lacks
its `;`, and an array its component. -/
theorem exists_completion (failed : read bytes = .error e) (stops : e.isTruncation = true) :
    ∃ (more : String) (kind : Kind), Denotes (bytes ++ bytesOf more) kind := by
  induction bytes generalizing e with
  | nil => exact ⟨"I", .int, .primitive (by decide)⟩
  | cons b tail ih =>
    simp only [read] at failed
    split at failed
    · rename_i opensClass
      rcases readClass_eq_error failed with ⟨-, closed⟩ | ⟨rfl, -⟩
      · -- The name may still be empty, so one more byte comes before the `;`.
        have written : bytesOf "a;" = [ascii 'a', ascii ';'] := by decide
        have named : ascii ';' ∉ tail ++ [ascii 'a'] := by
          rw [List.mem_append, List.mem_singleton]
          rintro (mem | same)
          · exact closed mem
          · exact absurd same (by decide)
        refine ⟨"a;", .object, ?_⟩
        rw [opensClass, written]
        have denotes := Denotes.reference (by simp) named
        simpa using denotes
      · cases stops
    · split at failed
      · rename_i opensArray
        split at failed
        · rename_i component
          cases failed
          obtain ⟨more, kind, denotes⟩ := ih component stops
          exact ⟨more, .object, opensArray ▸ .array denotes⟩
        · cases failed
          cases stops
        · cases failed
      · split at failed
        · cases failed
        · cases failed
          cases stops

end

end FieldType

namespace Signature

open FieldType

/-! ### Parameter lists -/

section

variable {bytes rest : List UInt8} {kinds : List Kind} {e : Malformed}

theorem readParameters_append_of_ok (taken : readParameters bytes = .ok (kinds, rest))
    (more : List UInt8) : readParameters (bytes ++ more) = .ok (kinds, rest ++ more) := by
  obtain ⟨texts, rfl, all⟩ := denotes_of_readParameters taken
  rw [List.append_assoc, List.cons_append]
  exact readParameters_of_denotes all (rest ++ more)

theorem readParameters_append_of_error (failed : readParameters bytes = .error e)
    (final : e.isTruncation = false) (more : List UInt8) :
    readParameters (bytes ++ more) = .error e := by
  fun_induction readParameters bytes generalizing e with
  | case1 =>
    cases failed
    cases final
  | case2 => cases failed
  | case3 b tail inside malformed first =>
    cases failed
    exact readParameters_of_read_error inside (read_append_of_error first final more)
  | case4 b tail inside rest first =>
    cases failed
    exact readParameters_of_read_void inside (read_append_of_ok first more)
  | case5 b tail inside kind rest value first malformed later ih =>
    cases failed
    have first' : FieldType.read (b :: (tail ++ more)) = .ok (kind, rest ++ more) :=
      read_append_of_ok first more
    rw [List.cons_append, readParameters_of_read inside value first', ih later final]
  | case6 => cases failed

/-- A text at whose end the parameters stop is the beginning of a parameter list. -/
theorem exists_parameters_completion (failed : readParameters bytes = .error e)
    (stops : e.isTruncation = true) :
    ∃ (more : String) (texts : List UInt8) (kinds : List Kind),
      bytes ++ bytesOf more = texts ++ [ascii ')'] ∧ DenotesAll texts kinds := by
  have closing : bytesOf ")" = [ascii ')'] := by decide
  fun_induction readParameters bytes generalizing e with
  | case1 => exact ⟨")", [], [], closing, .nil⟩
  | case2 => cases failed
  | case3 b tail inside malformed first =>
    cases failed
    obtain ⟨more, kind, denotes⟩ := exists_completion first stops
    refine ⟨more ++ ")", _, [kind], ?_, .cons denotes .nil⟩
    rw [bytesOf_append, closing, List.append_nil, List.append_assoc]
  | case4 =>
    cases failed
    cases stops
  | case5 b tail inside kind rest value first malformed later ih =>
    cases failed
    obtain ⟨text, same, denotes⟩ := denotes_of_read first
    obtain ⟨more, texts, kinds, completed, all⟩ := ih later stops
    cases denotes with
    | void => exact absurd rfl value
    | value denotes =>
      refine ⟨more, text ++ texts, kind :: kinds, ?_, .cons denotes all⟩
      rw [same, List.append_assoc, completed, List.append_assoc]
  | case6 => cases failed

end

/-! ### Descriptors -/

section

variable {bytes : List UInt8} {e : Malformed}

/-- A descriptor is over where it ends: whatever follows is too much. -/
theorem readKinds_append_of_denotes {parameters : List Kind} {returnKind : Kind}
    (denotes : Denotes bytes parameters returnKind) {more : List UInt8} (longer : more ≠ []) :
    readKinds (bytes ++ more) = .error .trailing := by
  obtain ⟨all, result⟩ := denotes
  obtain ⟨b, tail, rfl⟩ := List.exists_cons_of_ne_nil longer
  rw [List.cons_append, List.append_assoc, List.cons_append, readKinds, if_pos rfl,
    readParameters_of_denotes all]
  simp only [read_append_of_result result]

theorem readKinds_append_of_error (begun : bytes ≠ []) (failed : readKinds bytes = .error e)
    (final : e.isTruncation = false) (more : List UInt8) :
    readKinds (bytes ++ more) = .error e := by
  obtain ⟨b, tail, rfl⟩ := List.exists_cons_of_ne_nil begun
  rw [List.cons_append]
  simp only [readKinds] at failed ⊢
  by_cases opens : b = ascii '('
  · rw [if_pos opens] at failed ⊢
    cases parameters : readParameters tail with
    | error malformed =>
      rw [parameters] at failed
      cases failed
      rw [readParameters_append_of_error parameters final]
    | ok taken =>
      obtain ⟨kinds, rest⟩ := taken
      rw [parameters] at failed
      rw [readParameters_append_of_ok parameters]
      cases result : FieldType.read rest with
      | error malformed =>
        simp only [result] at failed
        cases failed
        simp only [read_append_of_error result final]
      | ok last =>
        obtain ⟨kind, left⟩ := last
        simp only [result] at failed
        simp only [read_append_of_ok result]
        cases left with
        | nil => cases failed
        | cons c left => exact failed
  · rw [if_neg opens] at failed ⊢
    exact failed

/-- A text at whose end the reader fails is the beginning of a descriptor. -/
theorem exists_descriptor_completion (failed : readKinds bytes = .error e)
    (stops : e.isTruncation = true) :
    ∃ (more : String) (parameters : List Kind) (returnKind : Kind),
      Denotes (bytes ++ bytesOf more) parameters returnKind := by
  cases bytes with
  | nil =>
    cases failed
    cases stops
  | cons b tail =>
    simp only [readKinds] at failed
    split at failed
    · rename_i opens
      subst opens
      split at failed
      · rename_i parameters
        cases failed
        obtain ⟨more, texts, kinds, completed, all⟩ := exists_parameters_completion parameters stops
        refine ⟨more ++ "V", kinds, .void, ?_⟩
        have written : bytesOf "V" = [ascii 'V'] := by decide
        rw [bytesOf_append, written, List.cons_append, ← List.append_assoc, completed,
          List.append_assoc, List.singleton_append]
        exact .method all .void
      · rename_i kinds rest parameters
        obtain ⟨texts, rfl, all⟩ := denotes_of_readParameters parameters
        split at failed
        · rename_i result
          cases failed
          obtain ⟨more, kind, denotes⟩ := exists_completion result stops
          refine ⟨more, kinds, kind, ?_⟩
          rw [List.cons_append, List.append_assoc, List.cons_append]
          exact .method all (.value denotes)
        · cases failed
        · cases failed
          cases stops
    · cases failed
      cases stops

theorem bytesOf_ne_nil {text : String} (begun : text ≠ "") : bytesOf text ≠ [] := by
  intro empty
  rw [bytesOf, Array.toList_eq_nil_iff] at empty
  exact begun (String.toByteArray_inj.mp (ByteArray.ext empty))

end

variable {text : String}

/-- What follows a descriptor is refused. -/
theorem parse_append_of_parse {signature : Signature} (parsed : parse text = .ok signature)
    {more : String} (longer : more ≠ "") :
    parse (text ++ more) = .error
      (.invalidSignature (text ++ more) "trailing characters after return type") := by
  obtain ⟨-, denotes⟩ := parse_eq_ok_iff.mp parsed
  refine parse_eq_error_iff.mpr ⟨.trailing, ?_, rfl⟩
  rw [bytesOf_append]
  exact readKinds_append_of_denotes denotes (bytesOf_ne_nil longer)

/-- A text that is refused at its end can be completed. -/
theorem exists_parse_append {e : Malformed} (failed : readKinds (bytesOf text) = .error e)
    (stops : e.isTruncation = true) :
    ∃ more signature, more ≠ "" ∧ parse (text ++ more) = .ok signature := by
  obtain ⟨more, parameters, returnKind, denotes⟩ := exists_descriptor_completion failed stops
  rw [← bytesOf_append] at denotes
  have parsed : parse (text ++ more) = .ok ⟨text ++ more, parameters, returnKind⟩ :=
    parse_eq_ok_iff.mpr ⟨rfl, denotes⟩
  refine ⟨more, _, ?_, parsed⟩
  rintro rfl
  rw [String.append_empty, ← readKinds_eq_ok_iff, failed] at denotes
  cases denotes

/-- The beginning of a descriptor is refused at its end. -/
theorem exists_truncation (begun : text ≠ "") {more : String} {signature : Signature}
    (longer : more ≠ "") (parsed : parse (text ++ more) = .ok signature) :
    ∃ e, readKinds (bytesOf text) = .error e ∧ e.isTruncation = true := by
  obtain ⟨-, whole⟩ := parse_eq_ok_iff.mp parsed
  rw [← readKinds_eq_ok_iff, bytesOf_append] at whole
  cases failed : readKinds (bytesOf text) with
  | ok kinds =>
    rw [readKinds_append_of_denotes (readKinds_eq_ok_iff.mp failed) (bytesOf_ne_nil longer)]
      at whole
    cases whole
  | error e =>
    refine ⟨e, rfl, ?_⟩
    cases final : e.isTruncation with
    | true => rfl
    | false =>
      rw [readKinds_append_of_error (bytesOf_ne_nil begun) failed final] at whole
      cases whole

/-- The reason for which a text is refused tells whether the text is the beginning of a descriptor:
it is one exactly if the text was refused at its end. A descriptor is the beginning of no other one,
and what follows it is refused as such. -/
theorem parse_incomplete_iff :
    (∀ text : String, text ≠ "" →
      ((∃ reason ∈ ["missing ')'", "unterminated class name", "unexpected end of descriptor"],
          parse text = .error (.invalidSignature text reason)) ↔
        ∃ more signature, more ≠ "" ∧ parse (text ++ more) = .ok signature)) ∧
    (∀ descriptor signature, parse descriptor = .ok signature → ∀ more, more ≠ "" →
      parse (descriptor ++ more) = .error
        (.invalidSignature (descriptor ++ more) "trailing characters after return type")) ∧
    ∀ descriptor signature more longer, parse descriptor = .ok signature →
      parse (descriptor ++ more) = .ok longer → more = "" := by
  refine ⟨?_, ?_, ?_⟩
  · intro text begun
    constructor
    · rintro ⟨reason, stops, refused⟩
      obtain ⟨e, failed, rfl⟩ := parse_eq_error_iff.mp refused
      exact exists_parse_append failed (Malformed.reason_mem_iff.mp stops)
    · rintro ⟨more, signature, longer, parsed⟩
      obtain ⟨e, failed, stops⟩ := exists_truncation begun longer parsed
      exact ⟨e.reason, Malformed.reason_mem_iff.mpr stops,
        parse_eq_error_iff.mpr ⟨e, failed, rfl⟩⟩
  · intro descriptor signature parsed more longer
    exact parse_append_of_parse parsed longer
  · intro descriptor signature more longer parsed parsed'
    by_cases empty : more = ""
    · exact empty
    · rw [parse_append_of_parse parsed empty] at parsed'
      cases parsed'

/-- A text that stops inside a class name after an array bracket can be completed; `V` among the
parameters cannot be mended, and a descriptor takes no further result. -/
theorem parse_incomplete_of_open_class :
    "(I[Ljava/la" ≠ "" ∧ "(V" ≠ "" ∧
    (∃ more signature, more ≠ "" ∧ parse ("(I[Ljava/la" ++ more) = .ok signature) ∧
    (¬ ∃ more signature, more ≠ "" ∧ parse ("(V" ++ more) = .ok signature) ∧
    parse ("()V" ++ "V") = .error
      (.invalidSignature ("()V" ++ "V") "trailing characters after return type") := by
  obtain ⟨incomplete, trailing, -⟩ := parse_incomplete_iff
  have named : "(I[Ljava/la" ≠ "" := by decide
  have begun : "(V" ≠ "" := by decide
  have array : readParameters (bytesOf "[Ljava/la") = .error .unterminatedClass :=
    readParameters_of_read_error (by decide) rfl
  have unterminated : readKinds (bytesOf "(I[Ljava/la") = .error .unterminatedClass := by
    have bytes : bytesOf "(I[Ljava/la" = ascii '(' :: ascii 'I' :: bytesOf "[Ljava/la" := by decide
    have int : FieldType.read (ascii 'I' :: bytesOf "[Ljava/la") =
        .ok (.int, bytesOf "[Ljava/la") := rfl
    rw [bytes, readKinds, if_pos rfl, readParameters_of_read (by decide) (by decide) int, array]
  have void : readKinds (bytesOf "(V") = .error .voidParameter := by
    have bytes : bytesOf "(V" = [ascii '(', ascii 'V'] := by decide
    have taken : FieldType.read [ascii 'V'] = .ok (.void, []) := rfl
    rw [bytes, readKinds, if_pos rfl, readParameters_of_read_void (by decide) taken]
  have parsed : parse "()V" = .ok ⟨"()V", [], .void⟩ :=
    parse_eq_ok_iff.mpr ⟨rfl, .method .nil .void⟩
  refine ⟨named, begun, ?_, ?_, trailing _ _ parsed "V" (by decide)⟩
  · rw [← incomplete _ named]
    exact ⟨_, Malformed.reason_mem_iff.mpr rfl, parse_eq_error_iff.mpr ⟨_, unterminated, rfl⟩⟩
  · rw [← incomplete _ begun]
    rintro ⟨reason, stops, refused⟩
    obtain ⟨e, failed, rfl⟩ := parse_eq_error_iff.mp refused
    rw [void] at failed
    cases failed
    cases Malformed.reason_mem_iff.mp stops

end Signature
end JitBridge
