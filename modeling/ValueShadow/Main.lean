import ValueShadow.Command.Run

/-!
# The program

The command line on the machine's file system. Everything is decided by `CommandLine.run`; this
module only carries out what it asks for.
-/

namespace ValueShadow

/-- Whether the action succeeds. -/
def succeeds (action : IO Unit) : IO Bool := do
  match ← action.toBaseIO with
  | .ok () => return true
  | .error _ => return false

/-- The machine's file system. -/
def machineStore : FileStore IO where
  readText path := do
    match ← (IO.FS.readFile path).toBaseIO with
    | .ok text => return some text
    | .error _ => return none
  createDirectories path := succeeds (if path.isEmpty then pure () else IO.FS.createDirAll path)
  writeText path content := succeeds (IO.FS.writeFile path content)

end ValueShadow

/-- Runs the command line and ends with its exit code. The variable `SHADOWGEN_LOG` of the environment
chooses what is logged, if it names a level. -/
def main (words : List String) : IO UInt32 := do
  let filter := (← IO.getEnv "SHADOWGEN_LOG").bind ValueShadow.LogFilter.ofWord?
  let outcome ← (ValueShadow.CommandLine.parse words).run ValueShadow.machineStore filter
  IO.print outcome.output
  IO.eprint outcome.errors
  return outcome.exitCode.toUInt32
