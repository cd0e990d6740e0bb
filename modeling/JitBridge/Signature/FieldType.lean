import JitBridge.Kind

/-!
Field types of method descriptors, read from bytes. A field type is one of the characters of a
primitive kind, a class name between `L` and `;`, or any number of `[` before a component type.
Reading takes bytes from the front and leaves the rest; it always takes at least one.
-/

namespace JitBridge

/-- Why a text is no method descriptor. -/
inductive Malformed where
  | expectedOpening
  | missingClosing
  | voidParameter
  | trailing
  | unexpectedEnd
  | unterminatedClass
  | emptyClass
  | arrayOfVoid
  | unknownType
deriving DecidableEq, Repr

/-- The reason given in messages. -/
def Malformed.reason : Malformed → String
  | expectedOpening => "expected '('"
  | missingClosing => "missing ')'"
  | voidParameter => "void parameter"
  | trailing => "trailing characters after return type"
  | unexpectedEnd => "unexpected end of descriptor"
  | unterminatedClass => "unterminated class name"
  | emptyClass => "empty class name"
  | arrayOfVoid => "array of void"
  | unknownType => "unknown type character"

namespace FieldType

/-- The byte of an ASCII character. -/
def ascii (c : Char) : UInt8 := c.toNat.toUInt8

/-- Reads a class name and the `;` that ends it. -/
def readClass (bytes : List UInt8) : Except Malformed (Kind × List UInt8) :=
  match bytes.dropWhile (· != ascii ';') with
  | [] => .error .unterminatedClass
  | _ :: rest =>
    if bytes.head? = some (ascii ';') then .error .emptyClass else .ok (.object, rest)

/-- Reads one field type, `V` included, from the front of `bytes`. -/
def read : List UInt8 → Except Malformed (Kind × List UInt8)
  | [] => .error .unexpectedEnd
  | b :: rest =>
    if b = ascii 'L' then readClass rest
    else if b = ascii '[' then
      match read rest with
      | .error e => .error e
      | .ok (.void, _) => .error .arrayOfVoid
      | .ok (_, rest) => .ok (.object, rest)
    else match Kind.ofTypeChar? (Char.ofNat b.toNat) with
      | some kind => .ok (kind, rest)
      | none => .error .unknownType

theorem length_readClass_lt {bytes rest : List UInt8} {kind : Kind}
    (h : readClass bytes = .ok (kind, rest)) : rest.length < bytes.length := by
  unfold readClass at h
  split at h
  · cases h
  · rename_i hd tail found
    split at h
    · cases h
    · injection h with h
      have shorter := (List.dropWhile_sublist (fun b => b != ascii ';') (l := bytes)).length_le
      rw [found] at shorter
      simp only [Prod.mk.injEq] at h
      simp only [List.length_cons, h.2] at shorter
      omega

/-- Reading takes at least one byte. -/
theorem length_read_lt {bytes rest : List UInt8} {kind : Kind}
    (h : read bytes = .ok (kind, rest)) : rest.length < bytes.length := by
  induction bytes generalizing kind rest with
  | nil => cases h
  | cons b tail ih =>
    simp only [read] at h
    split at h
    · exact Nat.lt_succ_of_lt (length_readClass_lt h)
    · split at h
      · split at h
        · cases h
        · cases h
        · rename_i read_tail
          injection h with h
          simp only [Prod.mk.injEq] at h
          exact Nat.lt_succ_of_lt (h.2 ▸ ih read_tail)
      · split at h
        · injection h with h
          simp only [Prod.mk.injEq] at h
          simp [h.2]
        · cases h

end FieldType
end JitBridge
