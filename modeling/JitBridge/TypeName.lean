import JitBridge.Error
import JitBridge.Kind

/-!
Type names as the execution engine writes them, and the types they are resolved to. A name of one
character stands for a primitive type or `void`; every other name is looked up by the engine, which
may decline.
-/

namespace JitBridge

/-- The kind a type character stands for; any other character is an error. -/
def Kind.ofTypeChar (ch : Char) : Except Error Kind :=
  match ofTypeChar? ch with
  | some kind => .ok kind
  | none => .error (.invalidTypeChar ch)

/-- The outcome of a lookup. -/
inductive TypeRef where
  | primitive (kind : Kind)
  | resolved (name : String)
  /-- A name whose lookup was declined. -/
  | unresolved (name : String)
deriving DecidableEq, Repr

namespace TypeRef

def kind : TypeRef → Kind
  | primitive kind => kind
  | resolved _ | unresolved _ => .object

def isResolved : TypeRef → Bool
  | unresolved _ => false
  | _ => true

def name : TypeRef → String
  | primitive kind => kind.typeChar.toString
  | resolved name | unresolved name => name

def text : TypeRef → String
  | primitive kind => kind.sourceName
  | resolved name => name
  | unresolved name => s!"{name} (unresolved)"

end TypeRef

/-- The engine's lookup: the name, the type from which it is seen if any, and whether the type may
be loaded. Answering `none` declines. -/
abbrev TypeResolver : Type := String → Option String → Bool → Option String

/-- Looks a type name up; without a resolver every lookup is declined. -/
def TypeRef.lookup (resolver : Option TypeResolver) (name : String) (accessing : Option String)
    (load : Bool) : Except Error TypeRef :=
  match name.toList with
  | [ch] => (Kind.ofTypeChar ch).map .primitive
  | _ =>
    match resolver.bind fun lookup => lookup name accessing load with
    | some found => .ok (.resolved found)
    | none => .ok (.unresolved name)

end JitBridge
