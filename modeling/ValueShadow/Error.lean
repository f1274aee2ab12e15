import ValueShadow.PropertyType.Token

/-!
# What can be wrong with a value class

`ShadowError` lists the causes for which no shadow class is generated; `ShadowError.message` is the
text that reports one.
-/

namespace ValueShadow

/-- Why a shadow class cannot hold a property of some type. -/
inductive UnsupportedReason where
  /-- A list whose elements are containers. -/
  | listElement
  /-- A map whose keys are not primitive-like. -/
  | mapKey
  /-- A map whose values are containers. -/
  | mapValue
  /-- A parameterised class other than the two containers. -/
  | container
  deriving DecidableEq, Repr

/-- The text of the reason. -/
def UnsupportedReason.message : UnsupportedReason → String
  | .listElement => "parameterized types not allowed as List element type"
  | .mapKey => "non-primitive map key: only primitive-like types allowed as Map keys"
  | .mapValue => "parameterized types not allowed as Map value type"
  | .container => "List and Map are the only supported container types"

/-- Why the generated class of a value class has no name that everyone agrees on. -/
inductive NameProblem where
  /-- A segment of the package is no identifier. -/
  | packageSegment (segment : String)
  /-- A simple name is no identifier. -/
  | simpleName (name : String)
  /-- The name that was asked for is not a stage of the expected class. -/
  | mismatch (expected : QualifiedName)
  /-- The class is already generated for another value class. -/
  | claimed (owner : QualifiedName)
  deriving DecidableEq

/-- The text of the problem. -/
def NameProblem.message : NameProblem → String
  | .packageSegment segment => "package segment `" ++ segment ++ "` is not a valid identifier"
  | .simpleName name =>
    if name.isEmpty then "empty simple name" else "`" ++ name ++ "` is not a valid class name"
  | .mismatch expected =>
    "does not match `" ++ expected.display ++ "` used by referencing shadow classes"
  | .claimed owner => "also generated for `" ++ owner.display ++ "`"

/-- Why the generated source cannot spell a property. -/
inductive PropertyProblem where
  /-- The name is no identifier. -/
  | name
  /-- The accessor is no identifier. -/
  | accessor (method : String)
  /-- The getter would have the name of a method that cannot be overridden. -/
  | finalGetter
  deriving DecidableEq, Repr

/-- The text of the problem. -/
def PropertyProblem.message : PropertyProblem → String
  | .name => "not a valid Java identifier"
  | .accessor method => "accessor `" ++ method ++ "` is not a valid Java identifier"
  | .finalGetter => "its getter would override `Object.getClass()`"

/-- A cause for which no shadow class is generated for a value class. -/
inductive ShadowError where
  /-- A property has a type that a shadow class cannot hold. -/
  | unsupportedType (property : String) (type : PropertyType) (reason : UnsupportedReason)
  /-- A generated class has no agreed name. -/
  | ambiguousName (name : QualifiedName) (problem : NameProblem)
  /-- Two properties have one name. -/
  | duplicateProperty (property : String)
  /-- A text is not a type. -/
  | typeSyntax (text : String) (problem : TypeProblem)
  /-- A property cannot be spelled. -/
  | invalidProperty (property : String) (problem : PropertyProblem)

/-- The text that reports the error. -/
def ShadowError.message : ShadowError → String
  | .unsupportedType property type reason =>
    "type is not supported: " ++ type.display ++ " (property `" ++ property ++ "`): " ++
      reason.message
  | .ambiguousName name problem =>
    "ambiguous generated name for `" ++ name.display ++ "`: " ++ problem.message
  | .duplicateProperty property => "duplicate property `" ++ property ++ "` in schema"
  | .typeSyntax text problem => "invalid type `" ++ text ++ "`: " ++ problem.message
  | .invalidProperty property problem =>
    "invalid property `" ++ property ++ "`: " ++ problem.message

/-- The number that identifies the kind of the error. -/
def ShadowError.code : ShadowError → Nat
  | .unsupportedType .. => 1
  | .ambiguousName .. => 2
  | .duplicateProperty .. => 3
  | .typeSyntax .. => 4
  | .invalidProperty .. => 5

/-- Something generated, or the first error met on the way. -/
abbrev Result := Except ShadowError

end ValueShadow
