import ValueShadow.PropertyType.Parser
import ValueShadow.Session
import ValueShadow.Text.Blank

/-!
# Manifests

A manifest describes the value classes of one run and how their classes are generated. Its entries
are texts until the catalog is built: a type is read in the package of its value class, and an entry
that is not a value class fails alone. `Manifest.problem?` finds what keeps a whole manifest from
being used.
-/

namespace ValueShadow

/-- A property as a manifest describes it. -/
structure PropertyEntry where
  name : String
  type : String
  accessor : Option String
  annotations : List AnnotationUse

/-- A value class as a manifest describes it. -/
structure ValueEntry where
  name : String
  generatedName : Option String
  superclassName : Option String
  isFinal : Bool
  annotations : List AnnotationUse
  properties : List PropertyEntry

/-- The settings of a run and the descriptions of its value classes. -/
structure Manifest where
  settings : Settings
  values : List ValueEntry

/-- The property that an entry describes in a package. -/
def PropertyEntry.toProperty (entry : PropertyEntry) (package : String) : Result Property :=
  match PropertyType.parse package entry.type with
  | .error problem => .error (.typeSyntax entry.type problem)
  | .ok type => .ok ⟨entry.name, type, entry.accessor, entry.annotations⟩

/-- The value class that an entry describes. -/
def ValueEntry.toValueClass (entry : ValueEntry) : Result ValueClass := do
  let name := QualifiedName.ofDotted entry.name
  let properties ← entry.properties.mapM (·.toProperty name.package)
  let schema ← Schema.ofList properties
  return ⟨name, entry.generatedName, entry.superclassName, entry.isFinal, entry.annotations, schema⟩

/-- What keeps a manifest from being used. -/
inductive ManifestProblem where
  /-- A value class has no name. -/
  | unnamedValue
  /-- Two value classes have one name. -/
  | repeatedValue (value : String)
  /-- A property has no name. -/
  | unnamedProperty (value : String)
  /-- The name of a property is no identifier. -/
  | propertyName (value property : String)
  /-- The accessor of a property is no identifier. -/
  | accessor (value property method : String)
  /-- A property has no type. -/
  | untypedProperty (value property : String)
  /-- The annotation that asks for generation has no name. -/
  | unnamedMarker
  deriving DecidableEq, Repr

/-- The text that reports the problem. -/
def ManifestProblem.message : ManifestProblem → String
  | .unnamedValue => "Value class name cannot be empty"
  | .repeatedValue value => "Value class '" ++ value ++ "' is declared more than once"
  | .unnamedProperty value => "Property name cannot be empty in value class '" ++ value ++ "'"
  | .propertyName value property =>
    "Property '" ++ property ++ "' of value class '" ++ value ++ "' is not a valid Java identifier"
  | .accessor value property method =>
    "Accessor '" ++ method ++ "' of property '" ++ value ++ "." ++ property ++
      "' is not a valid Java identifier"
  | .untypedProperty value property =>
    "Property '" ++ property ++ "' of value class '" ++ value ++ "' has no type"
  | .unnamedMarker => "Marker annotation cannot be empty"

/-- What is wrong with a property of a value class. -/
def PropertyEntry.problem? (value : String) (entry : PropertyEntry) : Option ManifestProblem :=
  if entry.name.isEmpty then
    some (.unnamedProperty value)
  else if !isIdentifier entry.name then
    some (.propertyName value entry.name)
  else
    match entry.accessor.filter fun method => !isIdentifier method with
    | some method => some (.accessor value entry.name method)
    | none => if Text.isBlank entry.type then some (.untypedProperty value entry.name) else none

/-- What is wrong with a value class after those with the names in `earlier`. -/
def ValueEntry.problem? (earlier : List String) (entry : ValueEntry) : Option ManifestProblem :=
  if entry.name.isEmpty then
    some .unnamedValue
  else if entry.name ∈ earlier then
    some (.repeatedValue entry.name)
  else
    entry.properties.findSome? (·.problem? entry.name)

/-- The first thing that is wrong with value classes after those with the names in `earlier`. -/
def firstProblem? (earlier : List String) : List ValueEntry → Option ManifestProblem
  | [] => none
  | entry :: entries =>
    match entry.problem? earlier with
    | some problem => some problem
    | none => firstProblem? (entry.name :: earlier) entries

namespace Manifest

/-- The first thing that is wrong with the manifest. -/
def problem? (manifest : Manifest) : Option ManifestProblem :=
  match firstProblem? [] manifest.values with
  | some problem => some problem
  | none => if manifest.settings.marker.isEmpty then some .unnamedMarker else none

end Manifest

/-- An entry of a manifest for which nothing was generated, by the name that reports it. -/
structure EntryFailure where
  name : String
  error : ShadowError

/-- The failure of a value class in a session. -/
def EntryFailure.ofFailure (failure : Failure) : EntryFailure :=
  ⟨failure.valueClass.display, failure.error⟩

/-- The value classes that a manifest describes, and the entries that describe none. -/
structure Catalog where
  values : List ValueClass
  failures : List EntryFailure

namespace Catalog

/-- The catalog of the entries. -/
def ofEntries : List ValueEntry → Catalog
  | [] => ⟨[], []⟩
  | entry :: entries =>
    let catalog := ofEntries entries
    match entry.toValueClass with
    | .ok value => { catalog with values := value :: catalog.values }
    | .error error => { catalog with failures := ⟨entry.name, error⟩ :: catalog.failures }

/-- The events of building the catalog: each failed entry was skipped. -/
def events (catalog : Catalog) : List Event :=
  catalog.failures.map fun failure => .skipped failure.name failure.error

end Catalog

namespace Manifest

/-- The catalog of the manifest. -/
def catalog (manifest : Manifest) : Catalog :=
  .ofEntries manifest.values

/-- The session over the value classes of the manifest. -/
def session (manifest : Manifest) : Session :=
  ⟨manifest.settings, manifest.catalog.values⟩

end Manifest

end ValueShadow
