import ValueShadow.LocalNames
import ValueShadow.Naming
import ValueShadow.Shape
import ValueShadow.ShadowClass.Basic

/-!
# The shadow class of a value class

`GeneratedClass.ofValue` checks the types of a value class, names the classes to generate and the
local variables of their methods, and lists all members in the order of the properties. It reports
the first error: an unsupported type, a name of the generated class, a name of a referenced class.
-/

namespace ValueShadow

/-- The conversion of a property with this shape. `item` and `entry` are the loop variables. -/
def Shape.conversion (naming : Naming) (item entry : String) : Shape → Result Conversion
  | .verbatim => return .copy
  | .nested value => return .nested value (← naming.shadowName value)
  | .nestedList value => return .nestedList value (← naming.shadowName value) item
  | .nestedMap key value => return .nestedMap key value (← naming.shadowName value) entry

/-- The type of the shadow's field for a property of the type `declared`. -/
def Conversion.fieldType (declared : PropertyType) : Conversion → PropertyType
  | .copy => declared
  | .nested _ shadow => .valueRef shadow
  | .nestedList _ shadow _ => .collection .list (.valueRef shadow)
  | .nestedMap key _ shadow _ => .keyed .map (.primitive key) (.valueRef shadow)

/-- A property with its conversion, from which every member for it is made. -/
structure ConvertedProperty where
  property : Property
  conversion : Conversion

namespace ConvertedProperty

/-- The property with the conversion of its shape. -/
def ofShaped (naming : Naming) (item entry : String) (shaped : ShapedProperty) :
    Result ConvertedProperty := do
  let conversion ← shaped.shape.conversion naming item entry
  return ⟨shaped.property, conversion⟩

/-- The type of the shadow's field. -/
def fieldType (converted : ConvertedProperty) : PropertyType :=
  converted.conversion.fieldType converted.property.type

/-- The field of the shadow class. -/
def field (converted : ConvertedProperty) : Variable :=
  ⟨converted.property.name, converted.fieldType⟩

/-- The assignment of the forward constructor. -/
def assignment (converted : ConvertedProperty) : FieldAssignment :=
  ⟨converted.property.name, converted.property.accessor, converted.conversion⟩

/-- The binding of the reverse conversion. -/
def binding (converted : ConvertedProperty) : ReverseBinding :=
  ⟨⟨converted.property.name, converted.property.type⟩, converted.property.name,
    converted.conversion⟩

/-- The getter of the shadow class. -/
def getter (converted : ConvertedProperty) : Getter :=
  ⟨getterName converted.property.name, converted.property.name, converted.fieldType,
    Annotations.carried converted.property.annotations Annotations.carriedByProperty⟩

end ConvertedProperty

/-- The names of the forward constructor's parameter and of the two loop variables, different from
each other and from every property. -/
def localNames (value : QualifiedName) (properties : List String) : String × String × String :=
  let names : LocalNames := ⟨properties⟩
  let (parameter, names) := names.allocate (decapitalize value.simpleName)
  let (item, names) := names.allocate "item"
  let (entry, _) := names.allocate "entry"
  (parameter, item, entry)

/-- The constructor without parameters looks unused to the compiler. -/
def unusedWarning : AnnotationUse :=
  ⟨.ofDotted Annotations.suppressWarnings, [⟨"value", "\"unused\""⟩]⟩

/-- The shadow class of a value class with these properties. -/
def ShadowClass.ofShaped (naming : Naming) (value : ValueClass)
    (properties : List ShapedProperty) : Result ShadowClass := do
  let generated ← naming.classBeingGenerated value
  let (parameter, item, entry) := localNames value.name (properties.map (·.property.name))
  let converted ← properties.mapM (ConvertedProperty.ofShaped naming item entry)
  return {
    name := generated.nested naming.shadowSuffix
    source := value.name
    annotations := Annotations.carried value.annotations Annotations.carriedByClass
    fields := converted.map (·.field)
    emptyConstructor := [unusedWarning]
    forwardConstructor := ⟨⟨parameter, .valueRef value.name⟩, converted.map (·.assignment)⟩
    reverseConversion :=
      { name := naming.reverseConversion
        annotations := [.bare (.ofDotted Annotations.exclude)]
        returnType := naming.canonical generated
        bindings := converted.map (·.binding)
        arguments := converted.map (·.property.name) }
    getters := converted.map (·.getter) }

/-- The generated class around the shadow class of a value class. -/
def WrapperClass.ofValue (naming : Naming) (value : ValueClass) : Result WrapperClass := do
  let name ← naming.classBeingGenerated value
  let superclass ← naming.superclass value
  return {
    name
    superclass
    isFinal := value.isFinal
    parameters := value.schema.properties.map fun property => ⟨property.name, property.type⟩ }

/-- What is generated for a value class. -/
def GeneratedClass.ofValue (naming : Naming) (value : ValueClass) : Result GeneratedClass := do
  let properties ← value.schema.shaped
  let shadow ← ShadowClass.ofShaped naming value properties
  let wrapper ← WrapperClass.ofValue naming value
  return ⟨value.name, wrapper, shadow, referencedValueClasses properties⟩

end ValueShadow
