/-!
The closed set of named options: their names, environment variables, types and help lines.
-/

namespace JitBridge

/-- A named option. -/
inductive OptionKey where
  | compiler | initTimer | printConfig | printFlags | showFlags | traceMethodDataFilter
deriving DecidableEq, Repr

namespace OptionKey

/-- All options in the order in which they are listed. -/
def all : List OptionKey :=
  [compiler, initTimer, printConfig, printFlags, showFlags, traceMethodDataFilter]

/-- The place of the option's slot: options have their slots in the order of declaration. -/
def index (key : OptionKey) : Nat := key.ctorIdx

def name : OptionKey → String
  | compiler => "Compiler"
  | initTimer => "InitTimer"
  | printConfig => "PrintConfig"
  | printFlags => "PrintFlags"
  | showFlags => "ShowFlags"
  | traceMethodDataFilter => "TraceMethodDataFilter"

/-- The environment variable that carries the option. -/
def envVar : OptionKey → String
  | compiler => "JITCI_COMPILER"
  | initTimer => "JITCI_INIT_TIMER"
  | printConfig => "JITCI_PRINT_CONFIG"
  | printFlags => "JITCI_PRINT_FLAGS"
  | showFlags => "JITCI_SHOW_FLAGS"
  | traceMethodDataFilter => "JITCI_TRACE_METHOD_DATA_FILTER"

/-- The option of that name, if there is one. -/
def ofName? (name : String) : Option OptionKey :=
  all.find? (·.name == name)

def isBoolean : OptionKey → Bool
  | compiler | traceMethodDataFilter => false
  | _ => true

def typeName (key : OptionKey) : String :=
  if key.isBoolean then "boolean" else "String"

def help : OptionKey → String
  | compiler => "Selects the system compiler."
  | initTimer => "Specifies if initialization timing is enabled."
  | printConfig => "Prints VM configuration and exits."
  | printFlags => "Prints all jitci flags and exits."
  | showFlags => "Prints all jitci flags and continues."
  | traceMethodDataFilter => ""

/-- Options are listed in the order of declaration, so each is found at its place. -/
theorem getElem?_index (key : OptionKey) : all[key.index]? = some key := by cases key <;> rfl

theorem mem_all (key : OptionKey) : key ∈ all := List.mem_of_getElem? key.getElem?_index

/-- Two options have two places. -/
theorem index_inj {key other : OptionKey} : key.index = other.index ↔ key = other := by
  refine ⟨fun same => ?_, congrArg index⟩
  exact Option.some.inj (key.getElem?_index.symm.trans (same ▸ other.getElem?_index))

theorem ofName?_name (key : OptionKey) : ofName? key.name = some key := by cases key <;> decide

end OptionKey
end JitBridge
