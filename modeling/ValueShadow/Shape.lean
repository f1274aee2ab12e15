import ValueShadow.ValueClass

/-!
# Which properties a shadow class can hold

A shadow class copies a primitive-like value and a container of such values, and converts a value
class, a list of value classes and a map from primitive-like keys to value classes. `Schema.shaped`
gives each property its `Shape`, or reports the first property that has none. Only a type and its
direct arguments matter: a referenced value class is looked at when its own turn comes.
-/

namespace ValueShadow

/-- How the values of a type are carried through a shadow class. -/
inductive Category where
  | primitive
  | primitiveCollection
  | valueCollection
  | valueReference
  deriving DecidableEq, Repr

/-- Whether values of the category are copied without conversion. -/
def Category.isVerbatim : Category → Bool
  | .primitive | .primitiveCollection => true
  | .valueCollection | .valueReference => false

/-- The category of a type; a parameterised class other than the containers has none. The keys of a
map do not matter here. -/
def PropertyType.category? : PropertyType → Option Category
  | .primitive .. => some .primitive
  | .collection _ element | .keyed _ _ element =>
    some (if element.isPrimitive then .primitiveCollection else .valueCollection)
  | .valueRef .. => some .valueReference
  | .parameterized .. => none

/-- What becomes of a property in the shadow class. -/
inductive Shape where
  /-- It is copied. -/
  | verbatim
  /-- It is one value class. -/
  | nested (value : QualifiedName)
  /-- It is a list of a value class. -/
  | nestedList (value : QualifiedName)
  /-- It is a map from primitive-like keys to a value class. -/
  | nestedMap (key : Primitive) (value : QualifiedName)
  deriving DecidableEq

/-- The value class that the property is converted through. -/
def Shape.valueClass? : Shape → Option QualifiedName
  | .verbatim => none
  | .nested value | .nestedList value | .nestedMap _ value => some value

namespace PropertyType

/-- The shape of a list with these elements. -/
def listShape : PropertyType → Except UnsupportedReason Shape
  | .primitive .. => .ok .verbatim
  | .valueRef name => .ok (.nestedList name)
  | .collection .. | .keyed .. | .parameterized .. => .error .listElement

/-- The shape of a map with these keys and elements. The keys are looked at first. -/
def mapShape : PropertyType → PropertyType → Except UnsupportedReason Shape
  | .primitive _, .primitive _ => .ok .verbatim
  | .primitive key, .valueRef name => .ok (.nestedMap key name)
  | .primitive _, _ => .error .mapValue
  | _, _ => .error .mapKey

/-- The shape of a property of this type. -/
def shape : PropertyType → Except UnsupportedReason Shape
  | .primitive .. => .ok .verbatim
  | .valueRef name => .ok (.nested name)
  | .parameterized .. => .error .container
  | .collection .list element | .keyed .list _ element => listShape element
  | .collection .map _ => .error .mapKey
  | .keyed .map key element => mapShape key element

end PropertyType

/-- A property that a shadow class can hold. -/
structure ShapedProperty where
  property : Property
  category : Category
  shape : Shape

/-- The property with its category and shape. -/
def Property.shaped (property : Property) : Result ShapedProperty :=
  match property.type.category?, property.type.shape with
  | none, _ => .error (.unsupportedType property.name property.type .container)
  | some _, .error reason => .error (.unsupportedType property.name property.type reason)
  | some category, .ok shape => .ok ⟨property, category, shape⟩

/-- The properties with their categories and shapes, unless one has none. -/
def Schema.shaped (schema : Schema) : Result (List ShapedProperty) :=
  schema.properties.mapM Property.shaped

/-- The value classes that the properties are converted through, each where it is first used. -/
def referencedValueClasses (properties : List ShapedProperty) : List QualifiedName :=
  (properties.filterMap (·.shape.valueClass?)).eraseDups

end ValueShadow
