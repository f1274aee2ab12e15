import ValueShadow.Files.FileTree
import ValueShadow.Files.Output
import ValueShadow.Manifest.Basic
import ValueShadow.Text.Quoted

/-!
# Generating from a manifest

A generation runs the session of a manifest and writes one file for each generated class. What is
written is decided before anything is: `Manifest.plan` lists the files. `writeAll` writes them in
order through a `FileStore`, which is a file tree or the machine's file system, and stops at the
first that cannot be written.
-/

namespace ValueShadow

/-- What a generation needs of a file system. -/
structure FileStore (m : Type → Type) where
  /-- The content of a file, if it can be read. -/
  readText : String → m (Option String)
  /-- Makes a directory and those on the way to it; whether they are there now. -/
  createDirectories : String → m Bool
  /-- Writes a file; whether it was written. -/
  writeText : String → String → m Bool

/-- The operations on a file tree. One that fails leaves the tree as it was. -/
def FileTree.store : FileStore (StateM FileTree) where
  readText path := return (← get).readText path
  createDirectories path := do
    match (← get).createDirectories path with
    | some tree => set tree; return true
    | none => return false
  writeText path content := do
    match (← get).writeText path content with
    | some tree => set tree; return true
    | none => return false

/-- A file to write. -/
structure OutputFile where
  path : String
  content : String
  deriving DecidableEq

/-- What a generation is going to write. -/
structure Plan where
  files : List OutputFile
  /-- The entries that are no value classes, then the value classes that failed in the session. -/
  failures : List EntryFailure
  /-- The events of building the catalog. -/
  catalogEvents : List Event
  /-- The events of the session. -/
  sessionEvents : List Event
  /-- The number of value classes in the session. -/
  catalogSize : Nat

/-- What generating the manifest into a directory is going to write. -/
def Manifest.plan (manifest : Manifest) (directory : String) (format : OutputFormat) : Plan :=
  let catalog := manifest.catalog
  let report := manifest.session.run
  { files := report.units.map fun unit => ⟨unit.outputPath directory format, format.render unit⟩
    failures := catalog.failures ++ report.failures.map .ofFailure
    catalogEvents := catalog.events
    sessionEvents := report.events
    catalogSize := catalog.values.length }

/-- Why a generation stopped. -/
inductive WriteError where
  | directory (path : String)
  | file (path : String)
  deriving DecidableEq, Repr

/-- The text that reports the error. -/
def WriteError.message : WriteError → String
  | .directory path => "Failed to create directory: " ++ Text.quoted path
  | .file path => "Failed to write " ++ Text.quoted path

section

variable {m : Type → Type} [Monad m]

/-- Writes one file into its directory. -/
def OutputFile.write (store : FileStore m) (file : OutputFile) : m (Option WriteError) := do
  let directory := Path.parent file.path
  if !(← store.createDirectories directory) then
    return some (.directory directory)
  if !(← store.writeText file.path file.content) then
    return some (.file file.path)
  return none

/-- Writes the files in order: the paths of those that were written, and why it stopped. -/
def writeAll (store : FileStore m) : List OutputFile → m (List String × Option WriteError)
  | [] => return ([], none)
  | file :: files => do
    match ← file.write store with
    | some error => return ([], some error)
    | none =>
      let (written, error) ← writeAll store files
      return (file.path :: written, error)

end

end ValueShadow
