import ValueShadow.Command.Arguments
import ValueShadow.Command.Check
import ValueShadow.Command.Console
import ValueShadow.Command.Generate
import ValueShadow.Manifest.Decoding

/-!
# Running a command line

`CommandLine.run` does what a command line asks for, on a `FileStore`. A command that fails ends
with exit code 1 and one line that names the error; a command line that is not understood ends with
exit code 2 and nothing written.
-/

namespace ValueShadow

/-- Why a command ended early or without success. -/
inductive CommandError where
  /-- The manifest cannot be read. -/
  | unreadable (path : String)
  /-- The text is not that of a manifest. -/
  | malformed
  /-- The manifest cannot be used. -/
  | invalid (problem : ManifestProblem)
  /-- A file cannot be written. -/
  | write (error : WriteError)
  /-- Some value classes of a checked manifest fail. -/
  | invalidValues (count : Nat)
  /-- Nothing was generated for some value classes. -/
  | failedValues (count : Nat)
  deriving DecidableEq, Repr

/-- The text that reports the error. -/
def CommandError.message : CommandError → String
  | .unreadable path => "Failed to read manifest: " ++ Text.quoted path
  | .malformed => "Failed to parse manifest"
  | .invalid problem => problem.message
  | .write error => error.message
  | .invalidValues count => toString count ++ " value class(es) are invalid"
  | .failedValues count => toString count ++ " value class(es) failed to generate"

/-- The outcome after an error ended the command. -/
def Outcome.failed (outcome : Outcome) (error : CommandError) : Outcome :=
  { outcome with
    exitCode := 1
    errors := outcome.errors ++ "Error: " ++ error.message ++ "\n" }

/-- A line for an entry for which nothing was generated. -/
def EntryFailure.line (failure : EntryFailure) : String :=
  "✗ " ++ failure.name ++ ": " ++ failure.error.message ++ "\n"

/-- The lines for the entries for which nothing was generated. -/
def failureLines (failures : List EntryFailure) : String :=
  String.join (failures.map (·.line))

/-- What a check reports. -/
def CheckSummary.outcome (summary : CheckSummary) (filter : LogFilter) : Outcome :=
  let outcome : Outcome :=
    { output :=
        "✓ Value classes: " ++ toString summary.checked ++ "\n✓ Marked for generation: " ++
          toString summary.marked ++ "\n"
      errors := logOf filter "" summary.events ++ failureLines summary.failures }
  if summary.failures.isEmpty then
    { outcome with output := outcome.output ++ "\nManifest is valid!\n" }
  else
    outcome.failed (.invalidValues summary.failures.length)

/-- What a generation reports after writing the files of a plan. -/
def Plan.outcome (plan : Plan) (filter : LogFilter) (written : List String)
    (error : Option WriteError) : Outcome :=
  let log :=
    logOf filter "" plan.catalogEvents ++
      logOf filter (sessionOrigin filter plan.catalogSize) plan.sessionEvents ++
      logOf filter "" (written.map .wrote)
  match error with
  | some error => Outcome.failed { errors := log } (.write error)
  | none =>
    let outcome : Outcome :=
      { output := String.join (written.map fun path => "✓ " ++ path ++ "\n")
        errors := log ++ failureLines plan.failures }
    if plan.failures.isEmpty then
      { outcome with
        output := outcome.output ++ "\nGenerated " ++ toString written.length ++ " file(s)\n" }
    else
      outcome.failed (.failedValues plan.failures.length)

section

variable {m : Type → Type} [Monad m]

/-- Reads a manifest and makes sure that it can be used. -/
def Manifest.load (store : FileStore m) (path : String) : m (Except CommandError Manifest) := do
  match ← store.readText path with
  | none => return .error (.unreadable path)
  | some text =>
    match Manifest.parse text with
    | none => return .error .malformed
    | some manifest =>
      match manifest.problem? with
      | some problem => return .error (.invalid problem)
      | none => return .ok manifest

/-- Does what a command asks for. -/
def Command.run (store : FileStore m) (filter : LogFilter) : Command → m Outcome
  | .check path => do
    let heading := "Checking manifest: " ++ path ++ "\n"
    match ← Manifest.load store path with
    | .error error => return Outcome.failed { output := heading } error
    | .ok manifest =>
      let outcome := manifest.check.outcome filter
      return { outcome with output := heading ++ outcome.output }
  | .generate path directory format => do
    match ← Manifest.load store path with
    | .error error => return Outcome.failed {} error
    | .ok manifest =>
      let plan := manifest.plan directory format
      let (written, error) ← writeAll store plan.files
      return plan.outcome filter written error

/-- The name and number of this version. -/
def versionLine : String := "shadowgen 0.3.0\n"

/-- How the program is used. -/
def helpText : String :=
  "Shadow class generator for Firebase value classes\n\n" ++
    "Usage: shadowgen [-v] generate [-m MANIFEST] -o OUTPUT [-f java|json]\n" ++
    "       shadowgen [-v] check [-m MANIFEST]\n"

/-- Does what a command line asks for. A filter given from outside replaces the one that the command
line chooses. -/
def CommandLine.run (store : FileStore m) (filter : Option LogFilter) : CommandLine → m Outcome
  | .command task verbosity =>
    task.run store (filter.getD (some (LogFilter.ofVerbosity verbosity)))
  | .version => return { output := versionLine }
  | .help => return { output := helpText }
  | .misuse => return { exitCode := 2 }

end

end ValueShadow
