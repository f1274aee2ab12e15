import ValueShadow.ValueClass

/-!
# Names of generated classes

A `Naming` derives the name of the class generated for a value class, `AutoValue_Outer_Inner` for
`Outer.Inner`, and of the shadow class inside it. When generators chain, each earlier stage of a
generated class has one more leading chain marker; `Naming.canonical` strips them. A name that a
value class asks for has to be a stage of its own generated class, which is what other shadow
classes refer to.
-/

namespace ValueShadow

open Text

/-- The text without the markers it starts with. -/
def stripMarkers (marker : Char) (text : String) : String :=
  String.ofList (text.toList.dropWhile (· == marker))

/-- How generated classes and their members are named. -/
structure Naming where
  /-- What the name of a generated class starts with. -/
  generatedPrefix : String := "AutoValue_"
  /-- The simple name of every shadow class. -/
  shadowSuffix : String := "FirebaseValue"
  /-- What an earlier stage of a generated class has in front of its name. -/
  chainMarker : Char := '$'
  /-- The name of the method that turns a shadow object into a value object. -/
  reverseConversion : String := "toAutoValue"
  deriving DecidableEq

/-- The first part of the name that is no identifier, in the package before the class. -/
def QualifiedName.problem? (name : QualifiedName) : Option NameProblem :=
  let segments := if name.package.isEmpty then [] else segments '.' name.package
  match segments.find? (!isIdentifier ·) with
  | some segment => some (.packageSegment segment)
  | none => (name.simpleNames.find? (!isIdentifier ·)).map .simpleName

/-- Fails if a part of the name is no identifier. -/
def QualifiedName.check (name : QualifiedName) : Result Unit :=
  match name.problem? with
  | some problem => .error (.ambiguousName name problem)
  | none => .ok ()

namespace Naming

/-- The simple name of the class generated for a value class. -/
def generatedSimpleName (naming : Naming) (value : QualifiedName) : String :=
  naming.generatedPrefix ++ joined '_' value.simpleNames

/-- The class generated for a value class, in its package. -/
def generatedClass (naming : Naming) (value : QualifiedName) : Result QualifiedName := do
  value.check
  return .ofClass value.package (naming.generatedSimpleName value)

/-- The shadow class of a value class, inside its generated class. -/
def shadowName (naming : Naming) (value : QualifiedName) : Result QualifiedName := do
  let generated ← naming.generatedClass value
  return generated.nested naming.shadowSuffix

/-- The name without the chain markers that its innermost simple name starts with. -/
def canonical (naming : Naming) (name : QualifiedName) : QualifiedName :=
  name.withSimpleName (stripMarkers naming.chainMarker name.simpleName)

/-- The class being generated for a value class, with its chain markers. -/
def classBeingGenerated (naming : Naming) (value : ValueClass) : Result QualifiedName := do
  let expected ← naming.generatedClass value.name
  match value.generatedName with
  | none => return expected
  | some simpleName =>
    let name := QualifiedName.ofClass value.name.package simpleName
    name.check
    if naming.canonical name = expected then
      return name
    else
      throw (.ambiguousName name (.mismatch expected))

/-- The simple name of the class that the class being generated extends. -/
def superclass (naming : Naming) (value : ValueClass) : Result String :=
  match value.superclassName with
  | some name => .ok name
  | none => do
    let generated ← naming.classBeingGenerated value
    return String.singleton naming.chainMarker ++ generated.simpleName

end Naming

end ValueShadow
