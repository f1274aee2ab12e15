import ValueShadow.Shape
import ValueShadow.Proofs.Result

/-!
# Supported types

The types that a shadow class can hold (`PropertyType.IsSupported`), why another type is rejected
(`PropertyType.RejectedFor`) and the value class that a supported type is converted through
(`PropertyType.heldValueClass?`), each said of the type alone. The shape of a type agrees with all
three (`PropertyType.shape_cases`), and so does its category, which is found on a way of its own and
does not look at the keys of maps (`PropertyType.IsSupported.category?`). A schema is accepted
exactly if all its properties have supported types, and otherwise the first property that has none
is reported (`schema_accepts_supported`).
-/

namespace ValueShadow

namespace PropertyType

/-- The type is written without arguments: it is primitive-like or a value class. -/
inductive IsSimple : PropertyType → Prop where
  | primitive {simple : Primitive} : IsSimple (.primitive simple)
  | valueRef {name : QualifiedName} : IsSimple (.valueRef name)

/-- A shadow class can hold values of the type. A list may have keys, which do not matter; a map has
primitive-like ones. -/
inductive IsSupported : PropertyType → Prop where
  | primitive {simple : Primitive} : IsSupported (.primitive simple)
  | valueRef {name : QualifiedName} : IsSupported (.valueRef name)
  | list {element : PropertyType} : element.IsSimple → IsSupported (.collection .list element)
  | keyedList {key element : PropertyType} : element.IsSimple →
      IsSupported (.keyed .list key element)
  | map {key : Primitive} {element : PropertyType} : element.IsSimple →
      IsSupported (.keyed .map (.primitive key) element)

/-- A shadow class cannot hold values of the type, for this reason. Keys come before values: a map
with bad ones of both, or without keys, is rejected for its keys. -/
inductive RejectedFor : PropertyType → UnsupportedReason → Prop where
  | container {raw : QualifiedName} {arguments : List PropertyType} :
      RejectedFor (.parameterized raw arguments) .container
  | listElement {element : PropertyType} : ¬ element.IsSimple →
      RejectedFor (.collection .list element) .listElement
  | keyedListElement {key element : PropertyType} : ¬ element.IsSimple →
      RejectedFor (.keyed .list key element) .listElement
  | missingKey {element : PropertyType} : RejectedFor (.collection .map element) .mapKey
  | mapKey {key element : PropertyType} : (∀ simple, key ≠ .primitive simple) →
      RejectedFor (.keyed .map key element) .mapKey
  | mapValue {key : Primitive} {element : PropertyType} : ¬ element.IsSimple →
      RejectedFor (.keyed .map (.primitive key) element) .mapValue

/-- The value class that a type holds: the type itself, its elements or its values. -/
def heldValueClass? : PropertyType → Option QualifiedName
  | .valueRef name => some name
  | .collection _ (.valueRef name) => some name
  | .keyed _ _ (.valueRef name) => some name
  | _ => none

/-- The shape agrees with what is said of the type alone. -/
theorem shape_cases (type : PropertyType) :
    (∃ shape, type.shape = .ok shape ∧ type.IsSupported ∧
        shape.valueClass? = type.heldValueClass?) ∨
      ∃ reason, type.shape = .error reason ∧ type.RejectedFor reason := by
  cases type with
  | primitive simple => exact .inl ⟨_, rfl, .primitive, rfl⟩
  | valueRef name => exact .inl ⟨_, rfl, .valueRef, rfl⟩
  | parameterized raw arguments => exact .inr ⟨_, rfl, .container⟩
  | collection kind element =>
    cases kind with
    | map => exact .inr ⟨_, rfl, .missingKey⟩
    | list =>
      cases element with
      | primitive simple => exact .inl ⟨_, rfl, .list .primitive, rfl⟩
      | valueRef name => exact .inl ⟨_, rfl, .list .valueRef, rfl⟩
      | collection | keyed | parameterized => exact .inr ⟨_, rfl, .listElement nofun⟩
  | keyed kind key element =>
    cases kind with
    | list =>
      cases element with
      | primitive simple => exact .inl ⟨_, rfl, .keyedList .primitive, rfl⟩
      | valueRef name => exact .inl ⟨_, rfl, .keyedList .valueRef, rfl⟩
      | collection | keyed | parameterized => exact .inr ⟨_, rfl, .keyedListElement nofun⟩
    | map =>
      cases key with
      | valueRef | collection | keyed | parameterized => exact .inr ⟨_, rfl, .mapKey nofun⟩
      | primitive key =>
        cases element with
        | primitive simple => exact .inl ⟨_, rfl, .map .primitive, rfl⟩
        | valueRef name => exact .inl ⟨_, rfl, .map .valueRef, rfl⟩
        | collection | keyed | parameterized => exact .inr ⟨_, rfl, .mapValue nofun⟩

section
variable {type : PropertyType}

/-- No type is supported and rejected. -/
theorem RejectedFor.not_isSupported {reason : UnsupportedReason} (h : type.RejectedFor reason) :
    ¬ type.IsSupported := by
  cases h with
  | container | missingKey => exact nofun
  | listElement hcomplex | keyedListElement hcomplex | mapValue hcomplex =>
    intro hsupported
    cases hsupported
    exact hcomplex ‹_›
  | mapKey hkey =>
    intro hsupported
    cases hsupported
    exact hkey _ rfl

/-- The types with a shape are the supported ones. -/
theorem exists_shape_iff : (∃ shape, type.shape = .ok shape) ↔ type.IsSupported := by
  rcases type.shape_cases with ⟨shape, hshape, hsupported, -⟩ | ⟨reason, hreason, hrejected⟩
  · exact iff_of_true ⟨shape, hshape⟩ hsupported
  · exact iff_of_false (by simp [hreason]) hrejected.not_isSupported

/-- The shape of a type goes through the value class that the type holds. -/
theorem valueClass?_of_shape {shape : Shape} (h : type.shape = .ok shape) :
    shape.valueClass? = type.heldValueClass? := by
  rcases type.shape_cases with ⟨_, hshape, -, hheld⟩ | ⟨reason, hreason, -⟩
  · cases h.symm.trans hshape
    exact hheld
  · cases h.symm.trans hreason

/-- A type is rejected for one reason only. -/
theorem RejectedFor.unique {reason reason' : UnsupportedReason} (h : type.RejectedFor reason)
    (h' : type.RejectedFor reason') : reason = reason' := by
  cases h with
  | container | missingKey | listElement | keyedListElement =>
    cases h'
    rfl
  | mapKey hkey =>
    cases h' with
    | mapKey => rfl
    | mapValue => exact absurd rfl (hkey _)
  | mapValue =>
    cases h' with
    | mapKey hkey => exact absurd rfl (hkey _)
    | mapValue => rfl

/-- The types without a shape are the rejected ones, and the reason is reported. -/
theorem shape_eq_error_iff {reason : UnsupportedReason} :
    type.shape = .error reason ↔ type.RejectedFor reason := by
  constructor
  · intro h
    rcases type.shape_cases with ⟨_, hshape, -⟩ | ⟨reason', hreason, hrejected⟩
    · cases h.symm.trans hshape
    · cases h.symm.trans hreason
      exact hrejected
  · intro h
    rcases type.shape_cases with ⟨_, -, hsupported, -⟩ | ⟨reason', hreason, hrejected⟩
    · exact absurd hsupported h.not_isSupported
    · rw [hreason, hrejected.unique h]

/-- Only other parameterised classes have no category. -/
theorem rejectedFor_of_category?_eq_none (h : type.category? = none) :
    type.RejectedFor .container := by
  cases type with
  | parameterized => exact .container
  | primitive | valueRef | collection | keyed => cases h

/-- A supported type has a category, which is copied exactly if the type holds no value class. -/
theorem IsSupported.category? (h : type.IsSupported) :
    ∃ category, type.category? = some category ∧
      (category.isVerbatim = true ↔ type.heldValueClass? = none) := by
  cases h with
  | primitive | valueRef => exact ⟨_, rfl, by simp [Category.isVerbatim, heldValueClass?]⟩
  | list helement | keyedList helement | map helement =>
    cases helement <;> exact ⟨_, rfl, by simp [Category.isVerbatim, heldValueClass?, isPrimitive]⟩

end

end PropertyType

/-- The shapes without a value class are copied. -/
theorem Shape.valueClass?_eq_none_iff {shape : Shape} :
    shape.valueClass? = none ↔ shape = .verbatim := by
  cases shape <;> simp [valueClass?]

/-! ## Properties and schemas -/

section
variable {property : Property} {shaped : ShapedProperty}

/-- A shaped property is the property with the category and the shape of its type. -/
theorem Property.shaped_eq_ok :
    property.shaped = .ok shaped ↔ shaped.property = property ∧
      property.type.category? = some shaped.category ∧ property.type.shape = .ok shaped.shape := by
  cases shaped
  unfold Property.shaped
  split
  · next hcategory => simp [hcategory]
  · next hcategory hreason => simp [hreason]
  · next hcategory hshape => simp [hcategory, hshape, eq_comm]

/-- A property is shaped if its type is supported. -/
theorem Property.exists_shaped_iff :
    (∃ shaped, property.shaped = .ok shaped) ↔ property.type.IsSupported := by
  simp only [Property.shaped_eq_ok]
  constructor
  · rintro ⟨shaped, -, -, hshape⟩
    exact PropertyType.exists_shape_iff.1 ⟨_, hshape⟩
  · intro hsupported
    obtain ⟨category, hcategory, -⟩ := hsupported.category?
    obtain ⟨shape, hshape⟩ := PropertyType.exists_shape_iff.2 hsupported
    exact ⟨⟨property, category, shape⟩, rfl, hcategory, hshape⟩

/-- Otherwise the error names the property, its type and the reason why this is rejected. -/
theorem Property.shaped_eq_error {e : ShadowError} :
    property.shaped = .error e ↔ ∃ reason, property.type.RejectedFor reason ∧
      e = .unsupportedType property.name property.type reason := by
  unfold Property.shaped
  split
  · next hcategory =>
    have hcontainer := PropertyType.rejectedFor_of_category?_eq_none hcategory
    constructor
    · intro h
      exact ⟨_, hcontainer, (Except.error.inj h).symm⟩
    · rintro ⟨reason, hrejected, rfl⟩
      rw [hrejected.unique hcontainer]
  · next hreason =>
    simp only [← PropertyType.shape_eq_error_iff, hreason, Except.error.injEq]
    simp [eq_comm]
  · next hshape =>
    simp [← PropertyType.shape_eq_error_iff, hshape]

/-- A schema is shaped exactly if all its properties have supported types. -/
theorem Schema.exists_shaped_iff {schema : Schema} :
    (∃ shaped, schema.shaped = .ok shaped) ↔
      ∀ property ∈ schema.properties, property.type.IsSupported := by
  simp only [Schema.shaped, exists_mapM_eq_ok, Property.exists_shaped_iff]

/-- Otherwise the first property without one is reported. -/
theorem Schema.shaped_eq_error {schema : Schema} {e : ShadowError} :
    schema.shaped = .error e ↔
      ∃ property reason, FirstFailing (·.type.IsSupported) schema.properties property ∧
        property.type.RejectedFor reason ∧
        e = .unsupportedType property.name property.type reason := by
  simp only [Schema.shaped, mapM_eq_error, Property.exists_shaped_iff, Property.shaped_eq_error,
    exists_and_left]

/-- The shaped properties of a schema are its properties, in their order. -/
theorem Schema.map_property_of_shaped {schema : Schema} {shaped : List ShapedProperty}
    (h : schema.shaped = .ok shaped) : shaped.map (·.property) = schema.properties := by
  have hproperties : List.Forall₂ (fun property s => s.property = property) schema.properties
      shaped := (mapM_eq_ok.1 h).imp fun _ _ hs => (Property.shaped_eq_ok.1 hs).1
  rw [← List.forall₂_eq_eq_eq, List.forall₂_map_left_iff]
  exact hproperties.flip

/-- Each of them has the category and the shape of its type. -/
theorem Schema.category?_and_shape_of_shaped {schema : Schema} {shaped : List ShapedProperty}
    (h : schema.shaped = .ok shaped) {s : ShapedProperty} (hs : s ∈ shaped) :
    s.property.type.category? = some s.category ∧ s.property.type.shape = .ok s.shape := by
  obtain ⟨property, -, hproperty⟩ := exists_mem_of_forall₂ (mapM_eq_ok.1 h) hs
  obtain ⟨rfl, hcategory, hshape⟩ := Property.shaped_eq_ok.1 hproperty
  exact ⟨hcategory, hshape⟩

end

/-- The schemas whose properties all have supported types are accepted. Each property is then listed
with the category of its type, which is copied exactly if the shape is, and with a shape that goes
through the value class that the type holds. In every other schema, the first property whose type is
not supported is reported, with its type in full and the reason. -/
theorem schema_accepts_supported (schema : Schema) :
    ((∃ shaped, schema.shaped = .ok shaped) ↔
      ∀ property ∈ schema.properties, property.type.IsSupported) ∧
    (∀ shaped, schema.shaped = .ok shaped →
      shaped.map (·.property) = schema.properties ∧
      ∀ s ∈ shaped, s.property.type.category? = some s.category ∧
        (s.category.isVerbatim = true ↔ s.shape = .verbatim) ∧
        s.shape.valueClass? = s.property.type.heldValueClass?) ∧
    ∀ e, schema.shaped = .error e ↔
      ∃ property reason, FirstFailing (·.type.IsSupported) schema.properties property ∧
        property.type.RejectedFor reason ∧
        e = .unsupportedType property.name property.type reason ∧
        e.message = "type is not supported: " ++ property.type.display ++ " (property `" ++
          property.name ++ "`): " ++ reason.message := by
  refine ⟨Schema.exists_shaped_iff, fun shaped h => ⟨Schema.map_property_of_shaped h, ?_⟩, ?_⟩
  · intro s hs
    obtain ⟨hcategory, hshape⟩ := Schema.category?_and_shape_of_shaped h hs
    have hheld := PropertyType.valueClass?_of_shape hshape
    obtain ⟨category, hcategory', hverbatim⟩ :=
      (PropertyType.exists_shape_iff.1 ⟨_, hshape⟩).category?
    cases hcategory.symm.trans hcategory'
    exact ⟨hcategory, by rw [hverbatim, ← hheld, Shape.valueClass?_eq_none_iff], hheld⟩
  · intro e
    rw [Schema.shaped_eq_error]
    constructor
    · rintro ⟨property, reason, hfirst, hrejected, rfl⟩
      exact ⟨property, reason, hfirst, hrejected, rfl, rfl⟩
    · rintro ⟨property, reason, hfirst, hrejected, rfl, -⟩
      exact ⟨property, reason, hfirst, hrejected, rfl⟩

/-- Tags in a list, and how often each word is used. -/
def tagCounts : Schema where
  properties := [
    ⟨"tags", .collection .list (.valueRef (.ofClass "com.example" "Tag")), none, []⟩,
    ⟨"counts", .keyed .map (.primitive .string) (.primitive (.boxed .int)), none, []⟩]
  spellable := by decide +kernel
  distinct := by decide

/-- A number, a map whose keys and values are both lists, and an optional tag. -/
def listKeys : Schema where
  properties := [
    ⟨"id", .primitive (.unboxed .int), none, []⟩,
    ⟨"grid", .keyed .map (.collection .list (.primitive .string))
      (.collection .list (.primitive .string)), none, []⟩,
    ⟨"tag", .parameterized (.ofClass "java.util" "Optional")
      [.valueRef (.ofClass "com.example" "Tag")], none, []⟩]
  spellable := by decide +kernel
  distinct := by decide

/-- The tags are converted and the counts are copied. The map of lists is reported for its keys, not
for its values and not after the optional tag. -/
theorem schema_accepts_supported_tagCounts :
    (∃ shaped, tagCounts.shaped = .ok shaped ∧
      shaped.map (·.property) = tagCounts.properties ∧
      ∀ s ∈ shaped, s.shape.valueClass? = s.property.type.heldValueClass?) ∧
    ∃ grid ∈ listKeys.properties,
      listKeys.shaped = .error (.unsupportedType "grid" grid.type .mapKey) := by
  obtain ⟨haccepts, hshaped, -⟩ := schema_accepts_supported tagCounts
  have hsupported : ∀ property ∈ tagCounts.properties, property.type.IsSupported := by
    simp only [tagCounts, List.forall_mem_cons]
    exact ⟨.list .valueRef, .map .primitive, by simp⟩
  obtain ⟨shaped, h⟩ := haccepts.2 hsupported
  obtain ⟨hproperties, hshapes⟩ := hshaped shaped h
  refine ⟨⟨shaped, h, hproperties, fun s hs => (hshapes s hs).2.2⟩, _, .tail _ (.head _), ?_⟩
  obtain ⟨-, -, hrejects⟩ := schema_accepts_supported listKeys
  have hfirst : FirstFailing (·.type.IsSupported) listKeys.properties
      (listKeys.properties.get ⟨1, by decide⟩) := by
    refine ⟨listKeys.properties.take 1, listKeys.properties.drop 2, rfl, ?_, nofun⟩
    simp [listKeys, PropertyType.IsSupported.primitive]
  exact (hrejects _).2 ⟨_, .mapKey, hfirst, .mapKey nofun, rfl, rfl⟩

end ValueShadow
