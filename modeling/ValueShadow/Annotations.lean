import ValueShadow.QualifiedName

/-!
# Annotations on classes and properties

An annotation in use has a type and named members. The values of the members are source text that is
carried along as it is. The types that the generator knows are compared by their dotted names.
-/

namespace ValueShadow

/-- A member of an annotation in use, with its value as source text. -/
structure AnnotationMember where
  name : String
  value : String
  deriving DecidableEq

/-- An annotation in use on a class, property or method. -/
structure AnnotationUse where
  typeName : QualifiedName
  members : List AnnotationMember
  deriving DecidableEq

/-- An annotation without members. -/
def AnnotationUse.bare (typeName : QualifiedName) : AnnotationUse :=
  ⟨typeName, []⟩

/-- Whether the type of the annotation has this dotted name. -/
def AnnotationUse.isNamed (use : AnnotationUse) (name : String) : Bool :=
  use.typeName.display == name

namespace Annotations

/-- Unknown properties are tolerated when an object is read from the store. -/
def ignoreExtraProperties : String := "com.google.firebase.database.IgnoreExtraProperties"

/-- Unknown properties are refused when an object is read from the store. -/
def throwOnExtraProperties : String := "com.google.firebase.database.ThrowOnExtraProperties"

/-- The method or field is kept out of the store. -/
def exclude : String := "com.google.firebase.database.Exclude"

/-- The property is stored under another key. -/
def propertyName : String := "com.google.firebase.database.PropertyName"

/-- The compiler's warnings are silenced. -/
def suppressWarnings : String := "java.lang.SuppressWarnings"

/-- The annotations of a value class that its shadow class carries too. -/
def carriedByClass : List String := [ignoreExtraProperties, throwOnExtraProperties]

/-- The annotations of a property that its getter carries too. -/
def carriedByProperty : List String := [exclude, propertyName]

/-- Whether one of the annotations has the type of this dotted name. -/
def contains (annotations : List AnnotationUse) (name : String) : Bool :=
  annotations.any (·.isNamed name)

/-- The annotations whose type is one of the names, in their order. -/
def carried (annotations : List AnnotationUse) (names : List String) : List AnnotationUse :=
  annotations.filter fun use => names.any use.isNamed

end Annotations

end ValueShadow
