import ValueShadow.QualifiedName

/-!
# Types of properties

A property holds a primitive-like value, a list or map, another value class, or some other
parameterised class. `display` writes a type with every class name in full; the arguments of a type
are types themselves, at any depth.
-/

namespace ValueShadow

/-- The eight primitive kinds. -/
inductive PrimitiveKind where
  | boolean
  | byte
  | short
  | int
  | long
  | char
  | float
  | double
  deriving DecidableEq, Repr

namespace PrimitiveKind

/-- All kinds. -/
def all : List PrimitiveKind :=
  [.boolean, .byte, .short, .int, .long, .char, .float, .double]

/-- The keyword of the unboxed type. -/
def keyword : PrimitiveKind → String
  | .boolean => "boolean"
  | .byte => "byte"
  | .short => "short"
  | .int => "int"
  | .long => "long"
  | .char => "char"
  | .float => "float"
  | .double => "double"

/-- The simple name of the class that boxes the kind. -/
def boxedName : PrimitiveKind → String
  | .boolean => "Boolean"
  | .byte => "Byte"
  | .short => "Short"
  | .int => "Integer"
  | .long => "Long"
  | .char => "Character"
  | .float => "Float"
  | .double => "Double"

/-- The class that boxes the kind. -/
def boxedClass (kind : PrimitiveKind) : QualifiedName :=
  .ofClass "java.lang" kind.boxedName

end PrimitiveKind

/-- A primitive-like type: a primitive, the class that boxes one, or the class of texts. -/
inductive Primitive where
  | unboxed (kind : PrimitiveKind)
  | boxed (kind : PrimitiveKind)
  | string
  deriving DecidableEq, Repr

namespace Primitive

/-- The class of the values, which an unboxed primitive has not. -/
def className? : Primitive → Option QualifiedName
  | .unboxed _ => none
  | .boxed kind => some kind.boxedClass
  | .string => some (.ofClass "java.lang" "String")

/-- The keyword of an unboxed primitive, the qualified class name of the others. -/
def display : Primitive → String
  | .unboxed kind => kind.keyword
  | .boxed kind => kind.boxedClass.display
  | .string => "java.lang.String"

/-- The primitive that the name denotes for this kind: its keyword, or its boxing class with or
without the package. -/
def ofNameFor? (name : String) (kind : PrimitiveKind) : Option Primitive :=
  if name = kind.keyword then
    some (.unboxed kind)
  else if name = kind.boxedName ∨ name = "java.lang." ++ kind.boxedName then
    some (.boxed kind)
  else
    none

/-- The primitive-like type that a name in a type denotes. -/
def ofName? (name : String) : Option Primitive :=
  if name = "String" ∨ name = "java.lang.String" then
    some .string
  else
    PrimitiveKind.all.findSome? (ofNameFor? name)

end Primitive

/-- The two kinds of containers that a shadow class converts. -/
inductive CollectionKind where
  | list
  | map
  deriving DecidableEq, Repr

namespace CollectionKind

/-- The interface of the containers. -/
def className : CollectionKind → QualifiedName
  | .list => .ofClass "java.util" "List"
  | .map => .ofClass "java.util" "Map"

/-- The class of a fresh container, which keeps the order of insertion. -/
def implementation : CollectionKind → QualifiedName
  | .list => .ofClass "java.util" "ArrayList"
  | .map => .ofClass "java.util" "LinkedHashMap"

/-- The container that a name in a type denotes. -/
def ofName? (name : String) : Option CollectionKind :=
  if name = "List" ∨ name = "java.util.List" then
    some .list
  else if name = "Map" ∨ name = "java.util.Map" then
    some .map
  else
    none

end CollectionKind

/-- The type of a property. -/
inductive PropertyType where
  /-- A primitive-like type. -/
  | primitive (primitive : Primitive)
  /-- A container with the type of its elements alone, as a list has. -/
  | collection (kind : CollectionKind) (element : PropertyType)
  /-- A container with the types of its keys and its elements, as a map has. -/
  | keyed (kind : CollectionKind) (key element : PropertyType)
  /-- Another value class. -/
  | valueRef (name : QualifiedName)
  /-- A parameterised class other than the two containers. -/
  | parameterized (raw : QualifiedName) (arguments : List PropertyType)

namespace PropertyType

mutual

/-- The type with every class name in full. -/
def display : PropertyType → String
  | .primitive simple => simple.display
  | .collection kind element => kind.className.display ++ "<" ++ element.display ++ ">"
  | .keyed kind key element =>
    kind.className.display ++ "<" ++ key.display ++ ", " ++ element.display ++ ">"
  | .valueRef name => name.display
  | .parameterized raw arguments =>
    raw.display ++ "<" ++ ", ".intercalate (displayAll arguments) ++ ">"

/-- The types of a list of arguments, each with every class name in full. -/
def displayAll : List PropertyType → List String
  | [] => []
  | type :: types => type.display :: displayAll types

end

/-- Whether the type is a primitive-like one. -/
def isPrimitive : PropertyType → Bool
  | .primitive .. => true
  | _ => false

/-- Whether the type is written with arguments. -/
def isParameterized : PropertyType → Bool
  | .collection .. | .keyed .. | .parameterized .. => true
  | .primitive .. | .valueRef .. => false

end PropertyType

end ValueShadow
