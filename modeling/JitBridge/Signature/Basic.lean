import JitBridge.Error
import JitBridge.Signature.FieldType

/-!
Method signatures: the parameter kinds and the return kind of a method descriptor such as
`(IJLjava/lang/Object;[ID)V`. Only the kinds matter to a calling convention, so every class and
every array is an `object`. A signature is read from a descriptor, or built from kinds with the
descriptor that stands for them.
-/

namespace JitBridge

/-- A method descriptor and the kinds it stands for. -/
structure Signature where
  descriptor : String
  parameters : List Kind
  returnKind : Kind
deriving DecidableEq, Repr

/-- The field type written for a kind: any object is written as the root class. -/
def Kind.fieldType : Kind → String
  | .object => "Ljava/lang/Object;"
  | kind => kind.typeChar.toString

namespace Signature

/-- Reads parameter types up to the closing parenthesis, which is taken too. -/
def readParameters (bytes : List UInt8) : Except Malformed (List Kind × List UInt8) :=
  match bytes with
  | [] => .error .missingClosing
  | b :: rest =>
    if b = FieldType.ascii ')' then .ok ([], rest)
    else match _taken : FieldType.read (b :: rest) with
      | .error e => .error e
      | .ok (.void, _) => .error .voidParameter
      | .ok (kind, rest) =>
        match readParameters rest with
        | .error e => .error e
        | .ok (kinds, rest) => .ok (kind :: kinds, rest)
termination_by bytes.length
decreasing_by exact FieldType.length_read_lt _taken

/-- Reads parameter kinds and return kind; the whole text has to be used up. -/
def readKinds : List UInt8 → Except Malformed (List Kind × Kind)
  | [] => .error .expectedOpening
  | b :: rest =>
    if b = FieldType.ascii '(' then
      match readParameters rest with
      | .error e => .error e
      | .ok (parameters, rest) =>
        match FieldType.read rest with
        | .error e => .error e
        | .ok (returnKind, []) => .ok (parameters, returnKind)
        | .ok (_, _ :: _) => .error .trailing
    else .error .expectedOpening

/-- The bytes of a descriptor. -/
def bytesOf (descriptor : String) : List UInt8 := descriptor.toUTF8.data.toList

/-- Reads a descriptor, or says why it is none. -/
def read (descriptor : String) : Except Malformed Signature :=
  match readKinds (bytesOf descriptor) with
  | .error e => .error e
  | .ok (parameters, returnKind) => .ok ⟨descriptor, parameters, returnKind⟩

/-- Reads a descriptor; the error carries the descriptor and the reason. -/
def parse (descriptor : String) : Except Error Signature :=
  (read descriptor).mapError fun malformed => .invalidSignature descriptor malformed.reason

/-- The signature with these kinds. -/
def ofKinds (parameters : List Kind) (returnKind : Kind) : Signature where
  descriptor := "(" ++ String.join (parameters.map Kind.fieldType) ++ ")" ++ returnKind.fieldType
  parameters := parameters
  returnKind := returnKind

end Signature
end JitBridge
