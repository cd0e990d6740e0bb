import JitBridge.Options.Basic

/-!
The slots of the options, and the record they stand for. A write fills the slot at the place of its
option and leaves all others as they are (`Options.slot_set`).

`Settings` has one field for each option, with the option's own type, so nothing has to be said
there about places and tags. `Settings.slots` lays the fields out as slots. Writing to the options
simulates writing to the record: after the same writes the slots are those of the record
(`Options.slots_foldl_write`).
-/

namespace JitBridge

/-- The option that is listed at a place has this place. -/
theorem OptionKey.index_eq_of_getElem? {place : Nat} {key : OptionKey}
    (listed : all[place]? = some key) : key.index = place := by
  have places : all.map index = List.range all.length := by decide
  have found : (all.map index)[place]? = some key.index := by
    rw [List.getElem?_map, listed, Option.map_some]
  rw [places, List.getElem?_eq_some_iff] at found
  obtain ⟨inside, same⟩ := found
  rw [← same, List.getElem_range]

namespace Options

/-- Each slot belongs to the option that is listed at its place. -/
theorem slots_eq_map_slot (options : Options) : options.slots = OptionKey.all.map options.slot := by
  have length : options.slots.length = OptionKey.all.length := by
    simpa using congrArg List.length options.typed
  refine List.ext_getElem? fun place => ?_
  rw [List.getElem?_map]
  cases listed : OptionKey.all[place]? with
  | none =>
    rw [List.getElem?_eq_none_iff] at listed
    exact List.getElem?_eq_none (length ▸ listed)
  | some key =>
    rw [← OptionKey.index_eq_of_getElem? listed]
    exact options.getElem?_slots key

theorem slot_default (key : OptionKey) : ({} : Options).slot key = key.slot none := by
  cases key <;> rfl

/-- A write fills the slot of its option, and the other slots stay as they are. -/
theorem slot_set (options : Options) (written key : OptionKey) (raw : String) :
    (options.set written raw).slot key =
      if written = key then key.slot (some raw) else options.slot key := by
  refine Option.some.inj ?_
  rw [← getElem?_slots, set, List.getElem?_set, apply_ite some, ← options.getElem?_slots]
  by_cases same : written = key
  · subst same
    rw [if_pos rfl, if_pos rfl, if_pos (options.index_lt written)]
  · rw [if_neg same, if_neg (mt OptionKey.index_inj.mp same)]

/-- There is always a value to be read from a boolean option. -/
theorem exists_bool (options : Options) (key : OptionKey) (boolean : key.isBoolean = true) :
    ∃ value, options.value key = .bool value := by
  have typed := options.isBoolean_value key
  rw [boolean] at typed
  cases read : options.value key with
  | bool value => exact ⟨value, rfl⟩
  | text value =>
    rw [read] at typed
    cases typed

/-- There is always a value to be read from a string option. -/
theorem exists_text (options : Options) (key : OptionKey) (textual : key.isBoolean = false) :
    ∃ value, options.value key = .text value := by
  have typed := options.isBoolean_value key
  rw [textual] at typed
  cases read : options.value key with
  | bool value =>
    rw [read] at typed
    cases typed
  | text value => exact ⟨value, rfl⟩

theorem getBool_of_value {options : Options} {key : OptionKey} {value : Bool}
    (read : options.value key = .bool value) : options.getBool key = .ok value := by
  rw [getBool, read]

theorem getString_of_value {options : Options} {key : OptionKey} {value : Option String}
    (read : options.value key = .text value) : options.getString key = .ok value := by
  rw [getString, read]

/-- Writes an option from its text. -/
def write (options : Options) (entry : OptionKey × String) : Options :=
  options.set entry.1 entry.2

end Options

/-! ### The record -/

/-- The value of one option as a value of the option's type, and whether nothing was written to it.
-/
structure Setting (α : Type) where
  value : α
  isDefault : Bool
deriving DecidableEq, Repr

/-- The values of all options, by name. -/
structure Settings where
  compiler : Setting (Option String) := ⟨none, true⟩
  initTimer : Setting Bool := ⟨false, true⟩
  printConfig : Setting Bool := ⟨false, true⟩
  printFlags : Setting Bool := ⟨false, true⟩
  showFlags : Setting Bool := ⟨false, true⟩
  traceMethodDataFilter : Setting (Option String) := ⟨none, true⟩
deriving DecidableEq, Repr

namespace Settings

/-- Writes a field of the record from a text. -/
def write (settings : Settings) : OptionKey × String → Settings
  | (.compiler, raw) => { settings with compiler := ⟨some raw, false⟩ }
  | (.initTimer, raw) => { settings with initTimer := ⟨Options.readBool raw, false⟩ }
  | (.printConfig, raw) => { settings with printConfig := ⟨Options.readBool raw, false⟩ }
  | (.printFlags, raw) => { settings with printFlags := ⟨Options.readBool raw, false⟩ }
  | (.showFlags, raw) => { settings with showFlags := ⟨Options.readBool raw, false⟩ }
  | (.traceMethodDataFilter, raw) =>
    { settings with traceMethodDataFilter := ⟨some raw, false⟩ }

/-- The slot of a boolean option. -/
def flagSlot (setting : Setting Bool) : OptionSlot := ⟨.bool setting.value, setting.isDefault⟩

/-- The slot of a string option. -/
def textSlot (setting : Setting (Option String)) : OptionSlot :=
  ⟨.text setting.value, setting.isDefault⟩

/-- The fields as slots, in the order in which the options are declared. -/
def slots (settings : Settings) : List OptionSlot :=
  [textSlot settings.compiler, flagSlot settings.initTimer, flagSlot settings.printConfig,
    flagSlot settings.printFlags, flagSlot settings.showFlags,
    textSlot settings.traceMethodDataFilter]

theorem slots_default : ({} : Options).slots = ({} : Settings).slots := rfl

theorem slots_write (settings : Settings) (key : OptionKey) (raw : String) :
    (settings.write (key, raw)).slots = settings.slots.set key.index (key.slot (some raw)) := by
  cases key <;> rfl

end Settings

namespace Options

variable {options : Options} {settings : Settings}

/-- One write to the options is one write to the record. -/
theorem slots_write (simulates : options.slots = settings.slots) (entry : OptionKey × String) :
    (options.write entry).slots = (settings.write entry).slots := by
  rw [Settings.slots_write, ← simulates]
  rfl

theorem slots_foldl_write (simulates : options.slots = settings.slots)
    (entries : List (OptionKey × String)) :
    (entries.foldl write options).slots = (entries.foldl Settings.write settings).slots := by
  induction entries generalizing options settings with
  | nil => exact simulates
  | cons entry entries ih => exact ih (slots_write simulates entry)

end Options
end JitBridge
