import JitBridge.Convention.Location

/-!
The command line: its commands with their arguments, and how they are read from words. Switches may
stand before or after the other arguments of a command; a value follows its switch as the next word,
behind `=`, or right behind a one-letter switch. Only properties may stand before the command.
-/

namespace JitBridge.CommandLine

/-- What the commands about a target have in common. -/
structure TargetArguments where
  /-- The architecture, if not that of the host. -/
  arch : Option String := none
  compressedReferences : Bool := false
  windows : Bool := false
deriving DecidableEq, Repr

/-- A command with its arguments. -/
inductive Command where
  /-- Prints all options. -/
  | flags
  /-- Prints the VM's configuration. -/
  | config (target : TargetArguments)
  /-- Prints allocatable and caller-saved registers. -/
  | registers (target : TargetArguments)
  /-- Prints the calling convention of a method descriptor. -/
  | convention (descriptor : String) (callType : CallType) (target : TargetArguments)
  /-- Dispatches a compile request and prints the result. -/
  | compile (holder name descriptor : String) (entryIndex : Option Int32)
      (target : TargetArguments)
deriving DecidableEq, Repr

/-- A command and the option properties given with it, in order. -/
structure Invocation where
  properties : List (String × String)
  command : Command
deriving DecidableEq, Repr

/-! ### Switches -/

/-- A switch of the command line. -/
inductive Switch where
  | property | arch | compressedReferences | windows | native | callee | entryIndex
deriving DecidableEq, Repr

namespace Switch

def all : List Switch :=
  [property, arch, compressedReferences, windows, native, callee, entryIndex]

/-- The name behind two dashes. -/
def longName? : Switch → Option String
  | property => none
  | arch => some "arch"
  | compressedReferences => some "compressed-oops"
  | windows => some "windows"
  | native => some "native"
  | callee => some "callee"
  | entryIndex => some "osr-bci"

/-- The letter behind one dash. -/
def letter? : Switch → Option Char
  | property => some 'D'
  | arch => some 'a'
  | _ => none

/-- Whether a value follows. -/
def takesValue : Switch → Bool
  | property | arch | entryIndex => true
  | _ => false

/-- Whether the switch may be given more than once. -/
def repeats : Switch → Bool
  | property => true
  | _ => false

end Switch

/-! ### Words -/

/-- What a word is by its first characters. -/
inductive Word where
  /-- A plain argument; a single dash is one. -/
  | plain (text : String)
  /-- Two dashes: all later words are plain. -/
  | terminator
  /-- A long switch with the text behind `=`, if there is one. -/
  | long (name : String) (value : Option String)
  /-- A one-letter switch with the text right behind it, if there is any. -/
  | short (letter : Char) (value : Option String)
deriving DecidableEq, Repr

/-- The text before and behind the first `=`. -/
def splitAtEquals (text : List Char) : String × Option String :=
  match text.span (· != '=') with
  | (before, []) => (String.ofList before, none)
  | (before, _ :: behind) => (String.ofList before, some (String.ofList behind))

/-- The value right behind a one-letter switch; a leading `=` is not part of it. -/
def attachedValue : List Char → Option String
  | [] => none
  | '=' :: rest => some (String.ofList rest)
  | rest => some (String.ofList rest)

namespace Word

def ofString (text : String) : Word :=
  match text.toList with
  | ['-', '-'] => terminator
  | '-' :: '-' :: rest => let (name, value) := splitAtEquals rest; long name value
  | '-' :: c :: rest => short c (attachedValue rest)
  | _ => plain text

/-- The switch a word names, with the value it carries. -/
def switch? : Word → Option (Switch × Option String)
  | long name value =>
      (Switch.all.find? fun s => s.longName? == some name).map fun s => (s, value)
  | short letter value =>
      (Switch.all.find? fun s => s.letter? == some letter).map fun s => (s, value)
  | plain _ | terminator => none

/-- Whether a word can be the value of the switch before it. -/
def isValue : Word → Bool
  | plain _ => true
  | _ => false

end Word

/-- The arguments of a command, taken apart. -/
structure Arguments where
  plain : List String := []
  /-- Switches in order, with their values; one without value has an empty one. -/
  switches : List (Switch × String) := []
deriving DecidableEq, Repr

namespace Arguments

def addPlain (text : String) (arguments : Arguments) : Arguments :=
  { arguments with plain := text :: arguments.plain }

/-- Puts a switch in front, unless it is there already and may not be repeated. -/
def addSwitch (s : Switch) (value : String) (arguments : Arguments) : Option Arguments :=
  if !s.repeats && arguments.switches.any (·.1 == s) then none
  else some { arguments with switches := (s, value) :: arguments.switches }

/-- Takes words apart; only the switches in `allowed` may occur. -/
def scan (allowed : List Switch) : List String → Option Arguments
  | [] => some {}
  | text :: rest =>
    match Word.ofString text with
    | .plain text => (scan allowed rest).map (addPlain text)
    | .terminator => some { plain := rest }
    | word =>
      match word.switch? with
      | none => none
      | some (s, attached) =>
        if s ∈ allowed then
          if s.takesValue then
            match attached, rest with
            | some value, rest => (scan allowed rest).bind (addSwitch s value)
            | none, [] => none
            | none, value :: rest =>
              if (Word.ofString value).isValue then (scan allowed rest).bind (addSwitch s value)
              else none
          else
            match attached with
            | some _ => none
            | none => (scan allowed rest).bind (addSwitch s "")
        else none

def has (arguments : Arguments) (s : Switch) : Bool := arguments.switches.any (·.1 == s)

/-- The values of a switch, in order. -/
def values (arguments : Arguments) (s : Switch) : List String :=
  (arguments.switches.filter (·.1 == s)).map (·.2)

end Arguments

/-! ### Commands -/

/-- A 32-bit number: digits in base ten behind an optional sign. -/
def readInt32? (text : String) : Option Int32 :=
  let (negative, digits) := match text.toList with
    | '-' :: rest => (true, rest)
    | '+' :: rest => (false, rest)
    | rest => (false, rest)
  if digits.isEmpty || !digits.all Char.isDigit then none
  else
    let size := digits.foldl (fun n c => 10 * n + (c.toNat - '0'.toNat)) 0
    let value : Int := if negative then -size else size
    if -2147483648 ≤ value ∧ value ≤ 2147483647 then some (Int32.ofInt value) else none

/-- A property: the text before the first `=` and the text behind it. -/
def readProperty? (text : String) : Option (String × String) :=
  match splitAtEquals text.toList with
  | (key, some value) => some (key, value)
  | (_, none) => none

def targetSwitches : List Switch := [.arch, .compressedReferences, .windows]

def targetOf (arguments : Arguments) : TargetArguments where
  arch := (arguments.values .arch).head?
  compressedReferences := arguments.has .compressedReferences
  windows := arguments.has .windows

/-- Which convention is asked for; both switches together are an error. -/
def callTypeOf? (arguments : Arguments) : Option CallType :=
  match arguments.has .native, arguments.has .callee with
  | true, true => none
  | true, false => some .nativeCall
  | false, true => some .managedCallee
  | false, false => some .managedCall

/-- The switches of a command besides properties. -/
def switchesOf? : String → Option (List Switch)
  | "flags" => some []
  | "config" | "registers" => some targetSwitches
  | "cc" => some ([.native, .callee] ++ targetSwitches)
  | "compile" => some (.entryIndex :: targetSwitches)
  | _ => none

/-- The command of that name with its arguments. -/
def commandOf? (name : String) (arguments : Arguments) : Option Command :=
  match name, arguments.plain with
  | "flags", [] => some .flags
  | "config", [] => some (.config (targetOf arguments))
  | "registers", [] => some (.registers (targetOf arguments))
  | "cc", [descriptor] =>
    (callTypeOf? arguments).map fun callType =>
      .convention descriptor callType (targetOf arguments)
  | "compile", [holder, name, descriptor] =>
    match arguments.values .entryIndex with
    | [] => some (.compile holder name descriptor none (targetOf arguments))
    | text :: _ => (readInt32? text).map fun index =>
      .compile holder name descriptor (some index) (targetOf arguments)
  | _, _ => none

/-- Reads the words of a command line; `none` is a usage error. -/
def Invocation.ofWords? (words : List String) : Option Invocation :=
  match words with
  | [] => none
  | text :: rest =>
    match Word.ofString text with
    | .plain name => do
      let allowed ← switchesOf? name
      let arguments ← Arguments.scan (.property :: allowed) rest
      let properties ← (arguments.values .property).mapM readProperty?
      let command ← commandOf? name arguments
      return ⟨properties, command⟩
    | .short 'D' (some value) => do
      let property ← readProperty? value
      let invocation ← ofWords? rest
      return { invocation with properties := property :: invocation.properties }
    | .short 'D' none =>
      match rest with
      | value :: rest =>
        if (Word.ofString value).isValue then do
          let property ← readProperty? value
          let invocation ← ofWords? rest
          return { invocation with properties := property :: invocation.properties }
        else none
      | [] => none
    | _ => none

end JitBridge.CommandLine
