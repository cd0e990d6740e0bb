import JitBridge.CommandLine.Run
import JitBridge.Proofs.Options.Slots
import Mathlib.Data.List.Basic
import Mathlib.Data.List.Induction
import Mathlib.Data.List.TakeDrop
import Mathlib.Data.List.TakeWhile

/-!
Which texts are written to the options. A call comes down to what it writes, one option after the
other (`OptionsCall.writes`), and in a run of calls only those since the options were last replaced
count (`Options.answer_runAll`). `OptionKey.textsTo` lists the texts written to one option. The
option stands as the last of them left it (`Options.Stands`), so the calls can be forgotten but for
that text: `Options.as_last_written`.
-/

namespace JitBridge

/-! ### What is written -/

/-- A call on options. The first two make new options; the others write to those there are. -/
inductive OptionsCall where
  | ofLookup (lookup : String → Option String)
  | ofProperties (properties : List (String × String))
  | applyProperties (properties : List (String × String))
  /-- Writes one option, in place or in a copy. -/
  | set (key : OptionKey) (raw : String)

namespace OptionKey

/-- The text that a property writes to the option, if it is for this one. -/
def writtenBy? (key : OptionKey) (property : String × String) : Option String :=
  if property.1 = Options.propertyPrefix ++ key.name then some property.2 else none

/-- The texts among writes that go to the option, in order. -/
def textsIn (key : OptionKey) (entries : List (OptionKey × String)) : List String :=
  entries.filterMap fun entry => if entry.1 = key then some entry.2 else none

theorem textsIn_concat (key : OptionKey) (entries : List (OptionKey × String))
    (entry : OptionKey × String) :
    key.textsIn (entries ++ [entry]) =
      key.textsIn entries ++ if entry.1 = key then [entry.2] else [] := by
  rw [textsIn, List.filterMap_append, textsIn]
  by_cases own : entry.1 = key <;> simp [own]

/-- The texts that a call writes to the option, in order. -/
def textsOf (key : OptionKey) : OptionsCall → List String
  | .ofLookup lookup => (lookup key.envVar).toList
  | .ofProperties properties => properties.filterMap key.writtenBy?
  | .applyProperties properties => properties.filterMap key.writtenBy?
  | .set written raw => if written = key then [raw] else []

theorem name_inj {key other : OptionKey} : key.name = other.name ↔ key = other := by
  refine ⟨fun same => ?_, congrArg name⟩
  exact Option.some.inj ((ofName?_name key).symm.trans (same ▸ ofName?_name other))

theorem ofName?_eq_some_iff {name : String} {key : OptionKey} :
    ofName? name = some key ↔ key.name = name := by
  refine ⟨fun found => ?_, fun named => named ▸ ofName?_name key⟩
  exact beq_iff_eq.mp (List.find?_some (p := fun key : OptionKey => key.name == name) found)

end OptionKey

namespace OptionsCall

def run (options : Options) : OptionsCall → Emit Options
  | ofLookup lookup => pure (Options.ofLookup lookup)
  | ofProperties properties => Options.ofProperties properties
  | applyProperties properties => options.applyProperties properties
  | set key raw => pure (options.set key raw)

/-- Carries calls out in turn; no option is written before. -/
def runAll (calls : List OptionsCall) : Emit Options :=
  calls.foldlM run {}

/-- Whether the options before the call are forgotten. -/
def replaces : OptionsCall → Bool
  | ofLookup _ => true
  | ofProperties _ => true
  | _ => false

/-- The properties a call is given. -/
def properties : OptionsCall → List (String × String)
  | ofProperties properties => properties
  | applyProperties properties => properties
  | _ => []

/-- The calls from the last one on that replaces the options, or all calls if none does. -/
def sinceReplaced : List OptionsCall → List OptionsCall
  | [] => []
  | call :: rest => if rest.any replaces then sinceReplaced rest else call :: rest

/-- The option that a property is for, with the text. -/
def keyed? (property : String × String) : Option (OptionKey × String) :=
  OptionKey.all.findSome? fun key => (key.writtenBy? property).map (key, ·)

/-- What a call writes, in order. -/
def writes : OptionsCall → List (OptionKey × String)
  | ofLookup lookup => OptionKey.all.filterMap fun key => (lookup key.envVar).map (key, ·)
  | ofProperties properties => properties.filterMap keyed?
  | applyProperties properties => properties.filterMap keyed?
  | set key raw => [(key, raw)]

/-- What calls write since the options were last replaced, in order. -/
def writesOf (calls : List OptionsCall) : List (OptionKey × String) :=
  (sinceReplaced calls).flatMap writes

/-- A property is for the option whose name is behind the prefix. -/
theorem keyed?_of_named {property : String × String} {key : OptionKey}
    (named : property.1 = Options.propertyPrefix ++ key.name) :
    keyed? property = some (key, property.2) := by
  have only (other : OptionKey) : other.writtenBy? property =
      if other = key then some property.2 else none := by
    simp only [OptionKey.writtenBy?, named, String.append_right_inj, OptionKey.name_inj,
      eq_comm (a := key)]
  simp only [keyed?, only]
  cases key <;> rfl

/-- A property that is for no option writes nothing. -/
theorem keyed?_of_unnamed {property : String × String}
    (unnamed : ∀ key : OptionKey, property.1 ≠ Options.propertyPrefix ++ key.name) :
    keyed? property = none := by
  rw [keyed?, List.findSome?_eq_none_iff]
  intro key _
  rw [OptionKey.writtenBy?, if_neg (unnamed key), Option.map_none]

/-- The texts for one option among the writes of a call. -/
theorem textsIn_writes (key : OptionKey) (call : OptionsCall) :
    key.textsIn call.writes = key.textsOf call := by
  have own (property : String × String) :
      (keyed? property).bind (fun entry => if entry.1 = key then some entry.2 else none) =
        key.writtenBy? property := by
    by_cases named : ∃ other : OptionKey, property.1 = Options.propertyPrefix ++ other.name
    · obtain ⟨other, named⟩ := named
      rw [keyed?_of_named named, Option.bind_some, OptionKey.writtenBy?, named]
      simp only [String.append_right_inj, OptionKey.name_inj]
    · rw [not_exists] at named
      rw [keyed?_of_unnamed named, Option.bind_none, OptionKey.writtenBy?, if_neg (named key)]
  have given (properties : List (String × String)) :
      key.textsIn (properties.filterMap keyed?) = properties.filterMap key.writtenBy? := by
    rw [OptionKey.textsIn, List.filterMap_filterMap]
    exact congrArg (properties.filterMap ·) (funext own)
  cases call with
  | ofLookup lookup =>
    have single (other : OptionKey) : ((lookup other.envVar).map (other, ·)).bind
        (fun entry => if entry.1 = key then some entry.2 else none) =
          if other = key then lookup key.envVar else none := by
      split
      · rename_i same
        rw [same]
        cases lookup key.envVar <;> simp
      · rename_i differs
        cases lookup other.envVar <;> simp [differs]
    rw [writes, OptionKey.textsIn, OptionKey.textsOf, List.filterMap_filterMap]
    simp only [single]
    cases key <;> rfl
  | ofProperties properties => exact given properties
  | applyProperties properties => exact given properties
  | set written raw =>
    rw [writes, OptionKey.textsIn, OptionKey.textsOf, List.filterMap_cons, List.filterMap_nil]
    split <;> simp_all

end OptionsCall

/-- The texts that calls write to the option since the options were last replaced, in order. -/
def OptionKey.textsTo (key : OptionKey) (calls : List OptionsCall) : List String :=
  (OptionsCall.sinceReplaced calls).flatMap key.textsOf

namespace Options

/-- A property key that carries the prefix and is for none of the options. -/
def Unknown (key : String) : Prop :=
  propertyPrefix.toList <+: key.toList ∧
    ∀ option ∈ OptionKey.all, key ≠ propertyPrefix ++ option.name

instance (key : String) : Decidable (Unknown key) :=
  inferInstanceAs (Decidable (_ ∧ _))

/-- What is reported of a property for no option. -/
def warning (property : String × String) : Output :=
  .record .warn s!"ignoring unknown option property {property.1}"

/-- What is reported of properties, in order. -/
def warnings (properties : List (String × String)) : List Output :=
  (properties.filter fun property => Unknown property.1).map warning

theorem optionName?_eq_some_iff {key name : String} :
    optionName? key = some name ↔ key = propertyPrefix ++ name := by
  rw [optionName?, Option.map_eq_some_iff]
  constructor
  · rintro ⟨behind, found, rfl⟩
    rw [List.isPrefixOf?_eq_some_iff_append_eq] at found
    rw [← String.toList_inj, String.toList_append, String.toList_ofList, found]
  · rintro rfl
    refine ⟨name.toList, ?_, String.ofList_toList⟩
    rw [List.isPrefixOf?_eq_some_iff_append_eq, String.toList_append]

/-! ### Calls as writes -/

/-- A property writes an option, is reported, or is passed over. -/
theorem applyProperty_cases (options : Options) (property : String × String) :
    (∃ key : OptionKey, property.1 = propertyPrefix ++ key.name ∧
      options.applyProperty property = pure (options.set key property.2)) ∨
    (Unknown property.1 ∧ options.applyProperty property = ⟨options, [warning property]⟩) ∨
    (¬propertyPrefix.toList <+: property.1.toList ∧
      options.applyProperty property = pure options) := by
  rw [applyProperty]
  cases behind : optionName? property.1 with
  | none =>
    refine .inr (.inr ⟨?_, rfl⟩)
    rintro ⟨name, split⟩
    have prefixed : optionName? property.1 = some (.ofList name) :=
      optionName?_eq_some_iff.mpr (by
        rw [← String.toList_inj, String.toList_append, String.toList_ofList, split])
    cases behind.symm.trans prefixed
  | some name =>
    have split := optionName?_eq_some_iff.mp behind
    dsimp only
    cases named : OptionKey.ofName? name with
    | some key =>
      exact .inl ⟨key, by rw [split, OptionKey.ofName?_eq_some_iff.mp named], rfl⟩
    | none =>
      refine .inr (.inl ⟨⟨?_, fun key _ same => ?_⟩, rfl⟩)
      · rw [split, String.toList_append]
        exact List.prefix_append ..
      · rw [split, String.append_right_inj] at same
        cases named.symm.trans (OptionKey.ofName?_eq_some_iff.mpr same.symm)

/-- A property without the prefix is for no option. -/
theorem ne_of_not_isPrefix {name : String} (unprefixed : ¬propertyPrefix.toList <+: name.toList)
    (key : OptionKey) : name ≠ propertyPrefix ++ key.name := by
  rintro rfl
  rw [String.toList_append] at unprefixed
  exact unprefixed (List.prefix_append ..)

theorem answer_applyProperties (options : Options) (properties : List (String × String)) :
    (options.applyProperties properties).answer =
      (properties.filterMap OptionsCall.keyed?).foldl write options := by
  induction properties generalizing options with
  | nil => rfl
  | cons property rest ih =>
    rw [applyProperties, Emit.answer_bind, ih, List.filterMap_cons]
    obtain ⟨key, named, applied⟩ | ⟨unknown, applied⟩ | ⟨unprefixed, applied⟩ :=
      options.applyProperty_cases property
    · rw [applied, OptionsCall.keyed?_of_named named]
      rfl
    · rw [applied, OptionsCall.keyed?_of_unnamed fun key => unknown.2 key key.mem_all]
    · rw [applied, OptionsCall.keyed?_of_unnamed (ne_of_not_isPrefix unprefixed)]
      rfl

theorem foldl_lookup (lookup : String → Option String) (keys : List OptionKey) (options : Options) :
    keys.foldl (fun options key =>
      match lookup key.envVar with
      | some raw => options.set key raw
      | none => options) options =
      (keys.filterMap fun key => (lookup key.envVar).map (key, ·)).foldl write options := by
  induction keys generalizing options with
  | nil => rfl
  | cons key rest ih =>
    rw [List.foldl_cons, ih, List.filterMap_cons]
    cases lookup key.envVar <;> rfl

/-- A call writes what it writes, to new options if it replaces those there are. -/
theorem answer_run (options : Options) (call : OptionsCall) :
    (call.run options).answer =
      call.writes.foldl write (if call.replaces then {} else options) := by
  cases call with
  | ofLookup lookup => exact foldl_lookup lookup OptionKey.all {}
  | ofProperties properties => exact answer_applyProperties {} properties
  | applyProperties properties => exact answer_applyProperties options properties
  | set key raw => rfl

/-! ### One option -/

/-- An option stands as a text left it that was written to it, or by default if there is none. -/
structure Stands (options : Options) (key : OptionKey) (text : Option String) : Prop where
  value : options.value key = text.elim key.defaultValue key.parse
  isDefault : options.isDefault key = text.isNone

/-- That is to say that its slot is the one for the text. -/
theorem stands_iff {options : Options} {key : OptionKey} {text : Option String} :
    options.Stands key text ↔ options.slot key = key.slot text := by
  constructor
  · rintro ⟨value, isDefault⟩
    rw [Options.value] at value
    rw [Options.isDefault] at isDefault
    cases text <;> exact OptionSlot.ext value isDefault
  · intro same
    constructor
    · rw [Options.value, same]
      cases text <;> rfl
    · rw [Options.isDefault, same]
      cases text <;> rfl

variable {options : Options} {key : OptionKey} {text : Option String}

theorem stands_default (key : OptionKey) : Stands {} key none := stands_iff.mpr (slot_default key)

/-- The last text that is written to an option counts. -/
theorem Stands.foldl_write (stands : options.Stands key text)
    (entries : List (OptionKey × String)) :
    (entries.foldl write options).Stands key ((key.textsIn entries).getLast?.or text) := by
  induction entries using List.reverseRecOn with
  | nil => exact stands
  | append_singleton entries entry ih =>
    rw [stands_iff] at ih ⊢
    rw [List.foldl_append, List.foldl_cons, List.foldl_nil, write, slot_set,
      OptionKey.textsIn_concat]
    split
    · simp
    · rw [List.append_nil, ih]

theorem Stands.run (stands : options.Stands key text) (call : OptionsCall) :
    (call.run options).answer.Stands key
      ((key.textsOf call).getLast?.or (if call.replaces then none else text)) := by
  rw [answer_run, ← OptionsCall.textsIn_writes]
  cases call.replaces with
  | true => exact (stands_default key).foldl_write call.writes
  | false => exact stands.foldl_write call.writes

namespace Stands

/-- Booleans are read from boolean options only. -/
theorem getBool (stands : options.Stands key text) :
    options.getBool key =
      if key.isBoolean then .ok (text.any readBool) else .error (.notBoolean key) := by
  rw [Options.getBool, stands.value]
  cases boolean : key.isBoolean <;> cases text <;>
    simp [OptionKey.defaultValue, OptionKey.parse, boolean]

/-- Texts are read from string options only. -/
theorem getString (stands : options.Stands key text) :
    options.getString key = if key.isBoolean then .error (.notString key) else .ok text := by
  rw [Options.getString, stands.value]
  cases boolean : key.isBoolean <;> cases text <;>
    simp [OptionKey.defaultValue, OptionKey.parse, boolean]

end Stands

/-! ### What is reported -/

theorem written_applyProperty (options : Options) (property : String × String) :
    (options.applyProperty property).written = warnings [property] := by
  obtain ⟨written, named, applied⟩ | ⟨unknown, applied⟩ | ⟨unprefixed, applied⟩ :=
    options.applyProperty_cases property
  · have known : ¬Unknown property.1 := fun unknown => unknown.2 written written.mem_all named
    simp [applied, warnings, known]
  · simp [applied, warnings, unknown]
  · have known : ¬Unknown property.1 := fun unknown => unprefixed unknown.1
    simp [applied, warnings, known]

theorem written_applyProperties (options : Options) (properties : List (String × String)) :
    (options.applyProperties properties).written = warnings properties := by
  induction properties generalizing options with
  | nil => rfl
  | cons property rest ih =>
    rw [applyProperties, Emit.written_bind, written_applyProperty, ih, warnings, warnings,
      warnings, ← List.map_append, ← List.filter_append, List.singleton_append]

theorem written_run (options : Options) (call : OptionsCall) :
    (call.run options).written = warnings call.properties := by
  cases call with
  | ofProperties properties => exact written_applyProperties _ properties
  | applyProperties properties => exact written_applyProperties options properties
  | _ => rfl

end Options

/-! ### Runs -/

namespace OptionsCall

theorem runAll_concat (calls : List OptionsCall) (call : OptionsCall) :
    runAll (calls ++ [call]) = runAll calls >>= fun options => call.run options := by
  rw [runAll, List.foldlM_append]
  simp [runAll]

theorem sinceReplaced_concat (calls : List OptionsCall) (call : OptionsCall) :
    sinceReplaced (calls ++ [call]) =
      if call.replaces then [call] else sinceReplaced calls ++ [call] := by
  induction calls with
  | nil => simp [sinceReplaced]
  | cons first rest ih =>
    rw [List.cons_append, sinceReplaced, sinceReplaced, List.any_append, ih]
    cases replaced : call.replaces <;> cases rest.any replaces <;> simp [replaced]

/-- The writes of a call come behind those before it, which do not count if it replaces the options.
-/
theorem writesOf_concat (calls : List OptionsCall) (call : OptionsCall) :
    writesOf (calls ++ [call]) =
      (if call.replaces then [] else writesOf calls) ++ call.writes := by
  rw [writesOf, sinceReplaced_concat, writesOf]
  cases call.replaces <;> simp

/-- The record after calls. -/
def settingsAfter (calls : List OptionsCall) : Settings :=
  (writesOf calls).foldl Settings.write {}

end OptionsCall

/-- The texts for one option among the writes of calls. -/
theorem OptionKey.textsIn_writesOf (key : OptionKey) (calls : List OptionsCall) :
    key.textsIn (OptionsCall.writesOf calls) = key.textsTo calls := by
  rw [OptionsCall.writesOf, textsIn, List.filterMap_flatMap, textsTo]
  exact congrArg ((OptionsCall.sinceReplaced calls).flatMap ·)
    (funext (OptionsCall.textsIn_writes key))

namespace Options

/-- A run of calls writes to new options what the calls since the last replacement write. -/
theorem answer_runAll (calls : List OptionsCall) :
    (OptionsCall.runAll calls).answer = (OptionsCall.writesOf calls).foldl write {} := by
  induction calls using List.reverseRecOn with
  | nil => rfl
  | append_singleton calls call ih =>
    rw [OptionsCall.runAll_concat, Emit.answer_bind, answer_run, ih, OptionsCall.writesOf_concat]
    cases call.replaces with
    | true => rfl
    | false => exact List.foldl_append.symm

/-- After any run an option stands as the text left it that was written last. -/
theorem stands_runAll (calls : List OptionsCall) (key : OptionKey) :
    (OptionsCall.runAll calls).answer.Stands key (key.textsTo calls).getLast? := by
  have stands := (stands_default key).foldl_write (OptionsCall.writesOf calls)
  rwa [← answer_runAll, key.textsIn_writesOf, Option.or_none] at stands

/-- After any run each slot is that of the option which is listed at its place, as the text left it
that was written to this option last. -/
theorem slots_runAll (calls : List OptionsCall) :
    (OptionsCall.runAll calls).answer.slots =
      OptionKey.all.map fun key => key.slot (key.textsTo calls).getLast? := by
  rw [slots_eq_map_slot]
  exact congrArg (OptionKey.all.map ·) (funext fun key => stands_iff.mp (stands_runAll calls key))

/-- After any run the slots are those of the record after the same calls. -/
theorem slots_runAll_settings (calls : List OptionsCall) :
    (OptionsCall.runAll calls).answer.slots = (OptionsCall.settingsAfter calls).slots := by
  rw [answer_runAll]
  exact slots_foldl_write Settings.slots_default (OptionsCall.writesOf calls)

theorem written_runAll (calls : List OptionsCall) :
    (OptionsCall.runAll calls).written = calls.flatMap fun call => warnings call.properties := by
  induction calls using List.reverseRecOn with
  | nil => rfl
  | append_singleton calls call ih =>
    rw [OptionsCall.runAll_concat, Emit.written_bind, ih, written_run, List.flatMap_append,
      List.flatMap_singleton]

end Options

/-! ### The command line -/

/-- The text that an argument gives to the option: what is behind the first `=` if the prefix and
the option's name are before it. -/
def OptionKey.given? (key : OptionKey) (argument : String) : Option String :=
  ((Options.propertyPrefix ++ key.name ++ "=").toList.isPrefixOf? argument.toList).map String.ofList

namespace CommandLine

/-- A text is split where its first `=` is. -/
theorem splitAtEquals_eq_some_iff {text : List Char} {before behind : String} :
    splitAtEquals text = (before, some behind) ↔
      text = before.toList ++ '=' :: behind.toList ∧ '=' ∉ before.toList := by
  rw [splitAtEquals, List.span_eq_takeWhile_dropWhile]
  constructor
  · intro split
    have whole := List.takeWhile_append_dropWhile (p := (· != '=')) (l := text)
    cases found : text.dropWhile (· != '=') with
    | nil =>
      rw [found] at split
      cases split
    | cons c rest =>
      rw [found] at split whole
      cases split
      obtain rfl : c = '=' := by
        have stop := List.head_dropWhile_not (· != '=') (l := text) (by simp [found])
        simpa [found] using stop
      refine ⟨?_, fun mem => ?_⟩
      · rw [String.toList_ofList, String.toList_ofList, whole]
      · rw [String.toList_ofList] at mem
        simpa using List.mem_takeWhile_imp mem
  · rintro ⟨rfl, absent⟩
    have passed : ∀ c ∈ before.toList, (c != '=') = true := fun c mem =>
      bne_iff_ne.mpr fun equals => absent (equals ▸ mem)
    rw [List.takeWhile_append_of_pos passed, List.dropWhile_append_of_pos passed]
    simp

theorem readProperty?_eq_some_iff {text key value : String} :
    readProperty? text = some (key, value) ↔ text = key ++ "=" ++ value ∧ '=' ∉ key.toList := by
  have split : text = key ++ "=" ++ value ↔
      text.toList = key.toList ++ '=' :: value.toList := by
    rw [← String.toList_inj]
    simp
  rw [split, ← splitAtEquals_eq_some_iff, readProperty?]
  rcases splitAtEquals text.toList with ⟨before, _ | behind⟩ <;> simp

/-- There is no `=` in the name of an option, so the first one ends it. -/
theorem given?_eq_some_iff {key : OptionKey} {argument raw : String} :
    key.given? argument = some raw ↔
      readProperty? argument = some (Options.propertyPrefix ++ key.name, raw) := by
  have absent : '=' ∉ (Options.propertyPrefix ++ key.name).toList := by
    cases key <;> decide
  rw [readProperty?_eq_some_iff, and_iff_left absent, OptionKey.given?, Option.map_eq_some_iff]
  simp only [List.isPrefixOf?_eq_some_iff_append_eq]
  constructor
  · rintro ⟨behind, whole, rfl⟩
    rw [← String.toList_inj, String.toList_append, String.toList_ofList, whole]
  · rintro rfl
    exact ⟨raw.toList, String.toList_append.symm, String.ofList_toList⟩

/-- A property that an argument is read as writes the text that the argument gives. -/
theorem writtenBy?_eq_given? {argument : String} {property : String × String}
    (read : readProperty? argument = some property) (key : OptionKey) :
    key.writtenBy? property = key.given? argument := by
  refine Option.ext fun raw => ?_
  rw [given?_eq_some_iff, read, OptionKey.writtenBy?]
  rcases property with ⟨name, value⟩
  simp

theorem filterMap_given? {arguments : List String} {properties : List (String × String)}
    (read : arguments.mapM readProperty? = some properties) (key : OptionKey) :
    properties.filterMap key.writtenBy? = arguments.filterMap key.given? := by
  induction arguments generalizing properties with
  | nil =>
    cases read
    rfl
  | cons argument rest ih =>
    simp only [List.mapM_cons, Option.bind_eq_bind, Option.bind_eq_some_iff] at read
    obtain ⟨property, first, others, later, ⟨⟩⟩ := read
    rw [List.filterMap_cons, List.filterMap_cons, writtenBy?_eq_given? first, ih later]

/-- On the command line the last argument for an option counts, or else its variable. -/
theorem stands_optionsOf (environment : String → Option String) {arguments : List String}
    {properties : List (String × String)}
    (read : arguments.mapM readProperty? = some properties) (key : OptionKey) :
    (optionsOf environment properties).answer.Stands key
      ((arguments.filterMap key.given?).getLast?.or (environment key.envVar)) := by
  have stands := Options.stands_runAll [.ofLookup environment, .applyProperties properties] key
  have texts : key.textsTo [.ofLookup environment, .applyProperties properties] =
      (environment key.envVar).toList ++ properties.filterMap key.writtenBy? := by
    simp [OptionKey.textsTo, OptionsCall.sinceReplaced, OptionsCall.replaces, OptionKey.textsOf]
  have single : (environment key.envVar).toList.getLast? = environment key.envVar := by
    cases environment key.envVar <;> rfl
  rw [texts, List.getLast?_append, single, filterMap_given? read] at stands
  exact stands

end CommandLine

namespace Options

/-- After any run an option stands as the text left it that was written to it last since the options
were last replaced. So the slot at each place is the one for the option which is listed there, and
all slots together are those of a record with one field for each option, after the same writes. An
option is read by the reader for its type only, and calls that write nothing to it leave it alone.
Each property with the prefix and an unknown name is reported once, in order, and changes nothing.
On the command line the last argument for an option counts, or else its environment variable. -/
theorem as_last_written (calls : List OptionsCall) (key : OptionKey) :
    let options := (OptionsCall.runAll calls).answer
    let text := (key.textsTo calls).getLast?
    options.Stands key text ∧
      options.slots =
        (OptionKey.all.map fun other => other.slot (other.textsTo calls).getLast?) ∧
      options.slots = (OptionsCall.settingsAfter calls).slots ∧
      options.getBool key =
        (if key.isBoolean then .ok (text.any readBool) else .error (.notBoolean key)) ∧
      options.getString key = (if key.isBoolean then .error (.notString key) else .ok text) ∧
      (∀ call : OptionsCall, call.replaces = false → key.textsOf call = [] →
        (call.run options).answer.value key = options.value key ∧
          (call.run options).answer.isDefault key = options.isDefault key) ∧
      (OptionsCall.runAll calls).written =
        (calls.flatMap fun call => warnings call.properties) ∧
      (∀ property : String × String, Unknown property.1 →
        (options.applyProperty property).answer = options) ∧
      ∀ (environment : String → Option String) (arguments : List String)
        (properties : List (String × String)),
        arguments.mapM CommandLine.readProperty? = some properties →
          (CommandLine.optionsOf environment properties).answer.Stands key
            ((arguments.filterMap key.given?).getLast?.or (environment key.envVar)) := by
  intro options text
  have stands : options.Stands key text := stands_runAll calls key
  refine ⟨stands, slots_runAll calls, slots_runAll_settings calls, stands.getBool,
    stands.getString, fun call keeps silent => ?_,
    written_runAll calls, fun property unknown => ?_,
    fun environment arguments properties read =>
      CommandLine.stands_optionsOf environment read key⟩
  · have after := stands.run call
    rw [keeps, silent] at after
    exact ⟨after.value.trans stands.value.symm, after.isDefault.trans stands.isDefault.symm⟩
  · obtain ⟨written, named, -⟩ | ⟨-, applied⟩ | ⟨unprefixed, -⟩ :=
      options.applyProperty_cases property
    · exact absurd named (unknown.2 written written.mem_all)
    · rw [applied]
    · exact absurd unknown.1 unprefixed

/-- A compiler that was written stays when a timer is asked for and when a property is misspelt. On
the command line the second of two arguments takes its place, up to the end. -/
theorem as_last_written_compiler :
    let demo := (OptionsCall.runAll [.set .compiler "demo"]).answer
    let arguments := ["jitci.Compiler=stub", "jitci.Compilers=2", "jitci.Compiler=a=b"]
    ∃ properties, arguments.mapM CommandLine.readProperty? = some properties ∧
      Unknown "jitci.Compilers" ∧
      demo.slots = Settings.slots { compiler := ⟨some "demo", false⟩ } ∧
      (demo.applyProperty ("jitci.Compilers", "2")).answer = demo ∧
      (demo.set .initTimer "true").value .compiler = .text (some "demo") ∧
      (CommandLine.optionsOf (fun _ => some "slow") properties).answer.value .compiler =
        .text (some "a=b") := by
  intro demo arguments
  have read : arguments.mapM CommandLine.readProperty? =
      some [("jitci.Compiler", "stub"), ("jitci.Compilers", "2"), ("jitci.Compiler", "a=b")] := by
    decide
  have unknown : Unknown "jitci.Compilers" := by decide
  have given : (arguments.filterMap OptionKey.compiler.given?).getLast? = some "a=b" := by decide
  obtain ⟨stands, -, record, -, -, kept, -, passed, commandLine⟩ :=
    as_last_written [.set .compiler "demo"] .compiler
  have there := (kept (.set .initTimer "true") rfl rfl).1.trans stands.value
  have last := (commandLine (fun _ => some "slow") arguments _ read).value
  rw [given] at last
  exact ⟨_, read, unknown, record, passed ("jitci.Compilers", "2") unknown, there, last⟩

end Options
end JitBridge
