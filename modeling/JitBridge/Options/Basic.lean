import JitBridge.Output
import JitBridge.Panic
import JitBridge.Text.Case
import JitBridge.Text.Column

/-!
Values of the named options. There is one slot for each option, at the place of the option; it holds
a value with a tag for its type, and remembers whether a value was written to it, even when the
value written is the default. Options are written from properties with a common prefix, from
environment variables, or one at a time; the last write counts.
-/

namespace JitBridge

/-- The value of an option, which tells its type. -/
inductive OptionValue where
  | bool (value : Bool)
  /-- A text, or `none` if it is unset. -/
  | text (value : Option String)
deriving DecidableEq, Repr

namespace OptionValue

def shown : OptionValue → String
  | bool value => toString value
  | text (some value) => value
  | text none => "null"

def isBoolean : OptionValue → Bool
  | bool _ => true
  | text _ => false

end OptionValue

/-- The value of one option, and whether nothing was written to it. -/
@[ext] structure OptionSlot where
  value : OptionValue
  isDefault : Bool
deriving DecidableEq, Repr

/-- The truth value a text stands for: `true` in any case, or else false. -/
def Options.readBool (raw : String) : Bool := Text.sameIgnoringCase raw "true"

namespace OptionKey

/-- The value of the option if nothing is written to it. -/
def defaultValue (key : OptionKey) : OptionValue :=
  if key.isBoolean then .bool false else .text none

/-- The value of the option that a text stands for. -/
def parse (key : OptionKey) (raw : String) : OptionValue :=
  if key.isBoolean then .bool (Options.readBool raw) else .text (some raw)

/-- The slot of the option as a text leaves it that is written to it, or else nothing. -/
def slot (key : OptionKey) : Option String → OptionSlot
  | some raw => ⟨key.parse raw, false⟩
  | none => ⟨key.defaultValue, true⟩

/-- What is written to an option has the type of the option, and so has its default. -/
theorem isBoolean_slot (key : OptionKey) (text : Option String) :
    (key.slot text).value.isBoolean = key.isBoolean := by
  cases text with
  | none =>
    rw [slot, defaultValue]
    cases key.isBoolean <;> rfl
  | some raw =>
    rw [slot, parse]
    cases key.isBoolean <;> rfl

theorem typed_slots_none :
    (all.map fun key => key.slot none).map (·.value.isBoolean) = all.map isBoolean := by
  decide

end OptionKey

/-- The slots of all options. -/
structure Options where
  slots : List OptionSlot := OptionKey.all.map fun key => key.slot none
  /-- One after the other they hold values of the types of the options. -/
  typed : slots.map (·.value.isBoolean) = OptionKey.all.map OptionKey.isBoolean := by
    exact OptionKey.typed_slots_none
deriving DecidableEq, Repr

namespace Options

/-- The prefix of properties that name options. -/
def propertyPrefix : String := "jitci."

theorem getElem?_typed (options : Options) (key : OptionKey) :
    (options.slots.map (·.value.isBoolean))[key.index]? = some key.isBoolean := by
  rw [options.typed, List.getElem?_map, key.getElem?_index, Option.map_some]

theorem index_lt (options : Options) (key : OptionKey) : key.index < options.slots.length := by
  obtain ⟨inside, -⟩ := List.getElem?_eq_some_iff.mp (options.getElem?_typed key)
  rwa [List.length_map] at inside

/-- The slot at the place of an option. -/
def slot (options : Options) (key : OptionKey) : OptionSlot :=
  options.slots.get ⟨key.index, options.index_lt key⟩

theorem getElem?_slots (options : Options) (key : OptionKey) :
    options.slots[key.index]? = some (options.slot key) :=
  List.getElem?_eq_getElem (options.index_lt key)

/-- Writes an option from its text, into the slot at its place. -/
def set (options : Options) (key : OptionKey) (raw : String) : Options where
  slots := options.slots.set key.index (key.slot (some raw))
  typed := by
    obtain ⟨inside, same⟩ := List.getElem?_eq_some_iff.mp (options.getElem?_typed key)
    rw [List.map_set, OptionKey.isBoolean_slot, ← same, List.set_getElem_self, options.typed]

/-- The value of an option. -/
def value (options : Options) (key : OptionKey) : OptionValue := (options.slot key).value

/-- Whether nothing was written to an option. -/
def isDefault (options : Options) (key : OptionKey) : Bool := (options.slot key).isDefault

theorem isBoolean_value (options : Options) (key : OptionKey) :
    (options.value key).isBoolean = key.isBoolean := by
  have typed := options.getElem?_typed key
  rw [List.getElem?_map, options.getElem?_slots, Option.map_some, Option.some.injEq] at typed
  exact typed

/-- The value of a boolean option; panics for a string option. -/
def getBool (options : Options) (key : OptionKey) : Except Panic Bool :=
  match options.value key with
  | .bool value => .ok value
  | .text _ => .error (.notBoolean key)

/-- The value of a string option; panics for a boolean option. -/
def getString (options : Options) (key : OptionKey) : Except Panic (Option String) :=
  match options.value key with
  | .text value => .ok value
  | .bool _ => .error (.notString key)

/-- The name of the requested compiler. -/
def compiler (options : Options) : Except Panic (Option String) := options.getString .compiler

/-- Whether the startup is timed. -/
def initTimer (options : Options) : Except Panic Bool := options.getBool .initTimer

/-- The name behind the property prefix, if the key carries it. -/
def optionName? (key : String) : Option String :=
  (propertyPrefix.toList.isPrefixOf? key.toList).map String.ofList

/-- Writes one property. A key without the prefix is passed over; an unknown name is reported and
passed over. -/
def applyProperty (options : Options) (property : String × String) : Emit Options :=
  match optionName? property.1 with
  | none => pure options
  | some name =>
    match OptionKey.ofName? name with
    | some key => pure (options.set key property.2)
    | none => do
      Emit.log .warn s!"ignoring unknown option property {property.1}"
      pure options

/-- Writes properties in turn. -/
def applyProperties (options : Options) : List (String × String) → Emit Options
  | [] => pure options
  | property :: rest => do
    let options ← options.applyProperty property
    options.applyProperties rest

/-- The options that a list of properties gives. -/
def ofProperties (properties : List (String × String)) : Emit Options :=
  applyProperties {} properties

/-- The options that environment variables give, asked for through `lookup`. -/
def ofLookup (lookup : String → Option String) : Options :=
  OptionKey.all.foldl (fun options key =>
    match lookup key.envVar with
    | some raw => options.set key raw
    | none => options) {}

/-- One line of the table: type, name, value and help; `:=` marks a value that was not written. -/
def line (options : Options) (key : OptionKey) : String :=
  let mark := if options.isDefault key then ":=" else " ="
  Text.padLeft 9 key.typeName ++ " " ++ Text.padRight 40 key.name ++ " " ++ mark ++ " " ++
    Text.padRight 14 (options.value key).shown ++ " " ++ key.help ++ "\n"

/-- The table of all options. -/
def table (options : Options) : String :=
  "[List of jitci options]\n" ++ String.join (OptionKey.all.map options.line)

end Options
end JitBridge
