import ValueShadow.Files.Path
import ValueShadow.Java.Source
import ValueShadow.Json.Encoding
import ValueShadow.Json.Printer

/-!
# Output files

Each generated class has one file: its source or its JSON form, in the directory of its package
below the output directory.
-/

namespace ValueShadow

/-- What is written of a generated class. -/
inductive OutputFormat where
  /-- The source of the class. -/
  | java
  /-- The parts of the class, for inspection. -/
  | json
  deriving DecidableEq, Repr

namespace OutputFormat

/-- The ending of the file names. -/
def fileEnding : OutputFormat → String
  | .java => "java"
  | .json => "json"

/-- The file of a generated class. -/
def render : OutputFormat → GeneratedClass → String
  | .java, generated => Java.source generated
  | .json, generated => (Json.ofGeneratedClass generated).pretty

end OutputFormat

/-- The name of the file of a generated class. -/
def GeneratedClass.fileName (generated : GeneratedClass) (format : OutputFormat) : String :=
  generated.wrapper.name.simpleName ++ "." ++ format.fileEnding

/-- The path of the file of a generated class below a directory. -/
def GeneratedClass.outputPath (generated : GeneratedClass) (directory : String)
    (format : OutputFormat) : String :=
  let packages := (Text.segments '.' generated.wrapper.name.package).filter (!·.isEmpty)
  Path.push (packages.foldl Path.push directory) (generated.fileName format)

end ValueShadow
