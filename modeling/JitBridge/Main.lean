import JitBridge.CommandLine.Run
import JitBridge.Listing.X86

/-!
The command line program: reads the environment, carries the arguments out, writes both outputs and
exits with the code of the run.
-/

open JitBridge

/-- Runs the command line. -/
def main (words : List String) : IO UInt32 := do
  let environment ← OptionKey.all.mapM fun key => do
    return (key.envVar, ← IO.getEnv key.envVar)
  let outcome :=
    CommandLine.runWords X86.decoder (fun name => (environment.lookup name).join) words
  (← IO.getStdout).putStr outcome.standardOutput
  (← IO.getStderr).putStr outcome.standardError
  return outcome.code
