import ValueShadow.ShadowClass.Basic

/-!
# Classes that a source file mentions

Every class whose name is written somewhere in the file of a generated class, as `Mentions` of its
parts. The names that a file may spell are resolved before anything is written.
-/

namespace ValueShadow.Java

mutual

/-- The classes in a type. An unboxed primitive counts as its boxing class, which stands for it
between `<` and `>`. -/
def mentionsOfType : PropertyType → List QualifiedName
  | .primitive (.unboxed kind) => [kind.boxedClass]
  | .primitive simple => simple.className?.toList
  | .collection kind element => kind.className :: mentionsOfType element
  | .keyed kind key element => kind.className :: (mentionsOfType key ++ mentionsOfType element)
  | .valueRef name => [name]
  | .parameterized raw arguments => raw :: mentionsOfTypes arguments

/-- The classes in several types. -/
def mentionsOfTypes : List PropertyType → List QualifiedName
  | [] => []
  | type :: types => mentionsOfType type ++ mentionsOfTypes types

end

/-- The classes that a conversion needs besides those of its types. -/
def mentionsOfConversion : Conversion → List QualifiedName
  | .copy | .nested .. => []
  | .nestedList .. => [CollectionKind.list.implementation]
  | .nestedMap .. => [CollectionKind.map.className, CollectionKind.map.implementation]

/-- The classes in a binding of the reverse conversion. -/
def mentionsOfBinding (binding : ReverseBinding) : List QualifiedName :=
  mentionsOfType binding.target.type ++ mentionsOfConversion binding.conversion

/-- All annotations of a shadow class and its members. -/
def annotationsOf (shadow : ShadowClass) : List AnnotationUse :=
  shadow.annotations ++ shadow.emptyConstructor ++ shadow.reverseConversion.annotations ++
    shadow.getters.flatMap (·.annotations)

/-- The classes in the file of a generated class. -/
def mentions (generated : GeneratedClass) : List QualifiedName :=
  let shadow := generated.shadow
  generated.wrapper.parameters.flatMap (mentionsOfType ·.type) ++
    shadow.fields.flatMap (mentionsOfType ·.type) ++
    mentionsOfType shadow.forwardConstructor.parameter.type ++
    shadow.reverseConversion.bindings.flatMap mentionsOfBinding ++
    [shadow.reverseConversion.returnType] ++
    (annotationsOf shadow).map (·.typeName)

end ValueShadow.Java
