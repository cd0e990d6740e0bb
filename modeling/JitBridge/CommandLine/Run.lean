import JitBridge.CommandLine.Arguments
import JitBridge.Session.Compile
import JitBridge.Session.Events
import JitBridge.Session.Startup

/-!
What the commands of the command line print, over the built-in backends with a decoder for x86-64.
Options come from the environment first and then from the properties given as arguments.
-/

namespace JitBridge.CommandLine

/-- The configuration that the arguments describe. -/
def TargetArguments.vmConfig (target : TargetArguments) : VmConfig where
  hostArchitecture := target.arch.getD "amd64"
  compressedReferences := target.compressedReferences
  windows := target.windows

/-- The backend of the host architecture, made by one of the built-in factories. -/
def hostBackend (decoder : Decoder) (vm : VmConfig) : Action Unit Backend := do
  match BackendFactory.find (BackendFactory.builtin decoder) vm.hostArchitecture with
  | .error e => Action.fail e
  | .ok (_, factory) => Action.ofExcept (← Action.ofEmit (factory.create vm).run)

/-- Sends one request through a session over the built-in backends, without any compiler. -/
def compileOnce (decoder : Decoder) (options : Options) (method : Method)
    (entryIndex : Option Int32) (vm : VmConfig) : Action Unit Unit := do
  let plan : Plan Unit := { vm, options, services := Services.builtin decoder }
  let (outcome, _) ← Action.ofEmit (plan.start.runFrom { world := () })
  match ← Action.ofExcept outcome with
  | .exited => return ()
  | .running session =>
    Action.zoom (fun _ => session.initial ()) (fun _ world => world) do
      let result ← session.compile ⟨method, entryIndex.getD invocationEntry, 0, 1⟩
      Action.print (result.text ++ "\n")
      Action.print (← get).statistics.text
      session.shutdown

/-- Carries a command out. -/
def Command.run (decoder : Decoder) (options : Options) : Command → Action Unit Unit
  | .flags => Action.print options.table
  | .config target => Action.print target.vmConfig.text
  | .registers target => do
    let registers := (← hostBackend decoder target.vmConfig).registers
    Action.print (s!"Architecture: {registers.target.arch.name.name}\n" ++ registers.text ++
      s!"Frame:       {registers.abi.frame.name}\n")
  | .convention descriptor callType target => do
    let signature ← Action.ofExcept ((Signature.parse descriptor).mapError .error)
    let registers := (← hostBackend decoder target.vmConfig).registers
    let convention ← Action.ofExcept
      ((registers.callingConvention callType signature.returnKind signature.parameters).mapError
        .panic)
    Action.print s!"{signature.descriptor} {callType.label}\n{convention.text}\n"
  | .compile holder name descriptor entryIndex target => do
    let method ← Action.ofExcept ((Method.ofDescriptor holder name descriptor).mapError .error)
    compileOnce decoder options method entryIndex target.vmConfig

/-- What a run leaves: its exit code and its two outputs. -/
structure Outcome where
  code : UInt32
  standardOutput : String
  standardError : String
deriving DecidableEq, Repr

/-- A command line that cannot be read. -/
def Outcome.usage : Outcome :=
  ⟨2, "", "usage: jitci [-D KEY=VALUE]... flags | config | registers | cc DESCRIPTOR | " ++
    "compile HOLDER NAME DESCRIPTOR\n"⟩

/-- The options of a run. -/
def optionsOf (environment : String → Option String) (properties : List (String × String)) :
    Emit Options :=
  (Options.ofLookup environment).applyProperties properties

/-- Carries an invocation out; log records are not shown. -/
def Invocation.run (decoder : Decoder) (environment : String → Option String)
    (invocation : Invocation) : Outcome :=
  let finished := do
    let options ← optionsOf environment invocation.properties
    (invocation.command.run decoder options).runFrom ()
  let printed := Output.printed finished.written
  match finished.answer.1 with
  | .ok () => ⟨0, printed, ""⟩
  | .error (.error e) => ⟨1, printed, s!"Error: {e.message}\n"⟩
  | .error (.panic p) => ⟨101, printed, (p.text?.getD "") ++ "\n"⟩

/-- Reads words and carries out what they say. -/
def runWords (decoder : Decoder) (environment : String → Option String) (words : List String) :
    Outcome :=
  match Invocation.ofWords? words with
  | some invocation => invocation.run decoder environment
  | none => Outcome.usage

end JitBridge.CommandLine
