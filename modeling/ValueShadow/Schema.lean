import ValueShadow.Annotations
import ValueShadow.Error
import ValueShadow.Identifier

/-!
# Schemas of value classes

A value class has properties in their order of declaration. A `Schema` holds properties that the
generated source can spell and whose names are distinct; `Schema.push` adds one property or says
what is wrong with it, and `Schema.ofList` adds several.
-/

namespace ValueShadow

/-- A property of a value class. The accessor is the method that reads it, when that is not named
like the property. -/
structure Property where
  name : String
  type : PropertyType
  ownAccessor : Option String := none
  annotations : List AnnotationUse := []

namespace Property

/-- The method of the value object that reads the property. -/
def accessor (property : Property) : String :=
  property.ownAccessor.getD property.name

/-- What keeps the generated source from spelling the property, if anything. -/
def problem? (property : Property) : Option PropertyProblem :=
  if !isIdentifier property.name then
    some .name
  else
    match property.ownAccessor.filter fun accessor => !isIdentifier accessor with
    | some accessor => some (.accessor accessor)
    | none => if getterName property.name = "getClass" then some .finalGetter else none

end Property

/-- Properties that can be spelled, with distinct names, in their order of declaration. -/
structure Schema where
  properties : List Property
  spellable : ∀ property ∈ properties, property.problem? = none
  distinct : (properties.map Property.name).Nodup

namespace Schema

/-- The schema without properties. -/
def empty : Schema :=
  ⟨[], by simp, by simp⟩

/-- The schema with one more property at the end. -/
def push (schema : Schema) (property : Property) : Result Schema :=
  match spellable : property.problem? with
  | some problem => .error (.invalidProperty property.name problem)
  | none =>
    if fresh : property.name ∈ schema.properties.map Property.name then
      .error (.duplicateProperty property.name)
    else
      .ok
        { properties := schema.properties ++ [property]
          spellable := by
            intro p mem
            rcases List.mem_append.1 mem with old | new
            · exact schema.spellable p old
            · rw [List.mem_singleton.1 new, spellable]
          distinct := by
            rw [List.map_append, List.nodup_append]
            refine ⟨schema.distinct, by simp, ?_⟩
            rintro name old other new rfl
            rw [List.map_singleton, List.mem_singleton] at new
            exact fresh (new ▸ old) }

/-- The schema with more properties at the end, unless one of them cannot be added. -/
def pushAll (schema : Schema) : List Property → Result Schema
  | [] => .ok schema
  | property :: properties => do
    let schema ← schema.push property
    schema.pushAll properties

/-- The schema of the properties, unless one of them cannot be added to those before it. -/
def ofList (properties : List Property) : Result Schema :=
  empty.pushAll properties

/-- The names of the properties in their order. -/
def names (schema : Schema) : List String :=
  schema.properties.map Property.name

/-- The number of properties. -/
def size (schema : Schema) : Nat :=
  schema.properties.length

/-- Whether there are no properties. -/
def isEmpty (schema : Schema) : Bool :=
  schema.properties.isEmpty

/-- The property of that name. -/
def get? (schema : Schema) (name : String) : Option Property :=
  schema.properties.find? (·.name == name)

end Schema

end ValueShadow
