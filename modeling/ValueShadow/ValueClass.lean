import ValueShadow.Schema

/-!
# Value classes

A value class is an immutable class that its author wrote. A generated class extends it and encloses
the shadow class. When several generators extend one value class, each names the class it generates
and the class that one extends, and one of them generates the final class.
-/

namespace ValueShadow

/-- A value class with what is asked of the class generated for it. -/
structure ValueClass where
  name : QualifiedName
  /-- The simple name of the class being generated, when it is not the derived one. -/
  generatedName : Option String := none
  /-- The simple name of the class it extends, when it is not the derived one. -/
  superclassName : Option String := none
  /-- Whether the class being generated is the last of the chain. -/
  isFinal : Bool := true
  annotations : List AnnotationUse := []
  schema : Schema

/-- Whether the value class carries the annotation that asks for generation. -/
def ValueClass.isMarked (value : ValueClass) (marker : String) : Bool :=
  Annotations.contains value.annotations marker

end ValueShadow
