import ValueShadow.Annotations
import ValueShadow.PropertyType.Basic

/-!
# Shadow classes

A `ShadowClass` is everything that is written of one shadow class: its fields, the constructor that
copies a value object into it, the method that turns it back into a value object, and its getters.
A `WrapperClass` is the generated class around it, and a `GeneratedClass` both together with the
value classes they refer to. All lists are in the order of the properties.
-/

namespace ValueShadow

/-- A field, parameter or local variable. -/
structure Variable where
  name : String
  type : PropertyType

/-- How a value crosses between a value object and its shadow. One conversion describes both
directions: forwards each value object becomes a shadow object, backwards each shadow object becomes
a value object. What is absent stays absent. -/
inductive Conversion where
  /-- The value is copied. -/
  | copy
  /-- The value is one object. -/
  | nested (value shadow : QualifiedName)
  /-- The value is a list, converted element by element with the loop variable `item`. -/
  | nestedList (value shadow : QualifiedName) (item : String)
  /-- The value is a map, converted entry by entry with the loop variable `entry`. -/
  | nestedMap (key : Primitive) (value shadow : QualifiedName) (entry : String)
  deriving DecidableEq

/-- Whether the value is copied. -/
def Conversion.isCopy : Conversion → Bool
  | .copy => true
  | .nested .. | .nestedList .. | .nestedMap .. => false

/-- The field becomes the converted value that the accessor of the value object returns. -/
structure FieldAssignment where
  field : String
  accessor : String
  conversion : Conversion
  deriving DecidableEq

/-- The constructor that copies a value object. -/
structure ForwardConstructor where
  parameter : Variable
  assignments : List FieldAssignment

/-- The local variable becomes the value of the field, converted back. -/
structure ReverseBinding where
  target : Variable
  field : String
  conversion : Conversion

/-- The method that turns a shadow object back into a value object. -/
structure ReverseConversion where
  name : String
  annotations : List AnnotationUse
  /-- The last generated class of the chain, of which the method makes an instance. -/
  returnType : QualifiedName
  bindings : List ReverseBinding
  /-- The local variables passed to the constructor of the instance. -/
  arguments : List String

/-- A method that returns a field. -/
structure Getter where
  name : String
  field : String
  returnType : PropertyType
  annotations : List AnnotationUse

/-- The shadow class of one value class. -/
structure ShadowClass where
  name : QualifiedName
  /-- The value class that the shadow class stands for. -/
  source : QualifiedName
  annotations : List AnnotationUse
  fields : List Variable
  /-- The annotations of the constructor without parameters. -/
  emptyConstructor : List AnnotationUse
  forwardConstructor : ForwardConstructor
  reverseConversion : ReverseConversion
  getters : List Getter

/-- The generated class around a shadow class. It passes the arguments of its constructor on to the
class that it extends. -/
structure WrapperClass where
  name : QualifiedName
  /-- The simple name of the class that it extends, in the same package. -/
  superclass : String
  isFinal : Bool
  parameters : List Variable

/-- What is generated for one value class. -/
structure GeneratedClass where
  valueClass : QualifiedName
  wrapper : WrapperClass
  shadow : ShadowClass
  /-- The value classes whose shadow classes this one uses, each where it is first used. -/
  references : List QualifiedName

/-- The referenced value classes of other packages, whose shadow classes are hidden from this
one. -/
def GeneratedClass.crossPackageReferences (generated : GeneratedClass) : List QualifiedName :=
  generated.references.filter (·.package != generated.valueClass.package)

end ValueShadow
