import ValueShadow.Proofs.Naming
import ValueShadow.Proofs.Shape
import ValueShadow.ShadowClass.Assembly

/-!
# What a generated class is made of

A generated class is made from one list of converted properties, one for each property of the value
class in its order (`GeneratedClass.Assembled`, `GeneratedClass.exists_assembled`). The conversion
of a property is decided by its type (`PropertyType.Crosses`) and by the name of the shadow class of
the value class that it goes through, if any.
-/

namespace ValueShadow

/-- The value class that a conversion goes through. -/
def Conversion.valueClass? : Conversion → Option QualifiedName
  | .copy => none
  | .nested value _ | .nestedList value _ _ | .nestedMap _ value _ _ => some value

/-- The shadow class that a conversion goes through. -/
def Conversion.shadowClass? : Conversion → Option QualifiedName
  | .copy => none
  | .nested _ shadow | .nestedList _ shadow _ | .nestedMap _ _ shadow _ => some shadow

/-- All conversions of a shadow class, forwards and backwards. -/
def ShadowClass.conversions (shadow : ShadowClass) : List Conversion :=
  shadow.forwardConstructor.assignments.map (·.conversion) ++
    shadow.reverseConversion.bindings.map (·.conversion)

/-- A conversion of the generated class goes through this value class and this shadow class. -/
def GeneratedClass.Converts (generated : GeneratedClass) (value shadow : QualifiedName) : Prop :=
  ∃ conversion ∈ generated.shadow.conversions,
    conversion.valueClass? = some value ∧ conversion.shadowClass? = some shadow

instance (generated : GeneratedClass) (value shadow : QualifiedName) :
    Decidable (generated.Converts value shadow) :=
  inferInstanceAs (Decidable (∃ conversion ∈ generated.shadow.conversions,
    conversion.valueClass? = some value ∧ conversion.shadowClass? = some shadow))

/-- The conversions of the type: a type is copied, or it is a value class, a list of one or a map to
one and its conversion goes through the shadow class of that value class. -/
inductive PropertyType.Crosses (naming : Naming) : PropertyType → Conversion → Prop where
  | copied {type : PropertyType} : type.shape = .ok .verbatim → Crosses naming type .copy
  | nested {value shadow : QualifiedName} : naming.shadowName value = .ok shadow →
      Crosses naming (.valueRef value) (.nested value shadow)
  | list {value shadow : QualifiedName} {item : String} : naming.shadowName value = .ok shadow →
      Crosses naming (.collection .list (.valueRef value)) (.nestedList value shadow item)
  | keyedList {key : PropertyType} {value shadow : QualifiedName} {item : String} :
      naming.shadowName value = .ok shadow →
      Crosses naming (.keyed .list key (.valueRef value)) (.nestedList value shadow item)
  | map {key : Primitive} {value shadow : QualifiedName} {entry : String} :
      naming.shadowName value = .ok shadow →
      Crosses naming (.keyed .map (.primitive key) (.valueRef value))
        (.nestedMap key value shadow entry)

/-- The generated class is made from these converted properties of the value class. -/
structure GeneratedClass.Assembled (naming : Naming) (value : ValueClass)
    (generated : GeneratedClass) (converted : List ConvertedProperty) : Prop where
  valueClass : generated.valueClass = value.name
  wrapperName : naming.classBeingGenerated value = .ok generated.wrapper.name
  shadowName : generated.shadow.name = generated.wrapper.name.nested naming.shadowSuffix
  source : generated.shadow.source = value.name
  /-- Each property is converted once, in the order of the properties. -/
  properties : converted.map (·.property) = value.schema.properties
  crosses : ∀ c ∈ converted, c.property.type.Crosses naming c.conversion
  fields : generated.shadow.fields = converted.map (·.field)
  assignments : generated.shadow.forwardConstructor.assignments = converted.map (·.assignment)
  bindings : generated.shadow.reverseConversion.bindings = converted.map (·.binding)
  arguments : generated.shadow.reverseConversion.arguments = converted.map (·.property.name)
  getters : generated.shadow.getters = converted.map (·.getter)
  references : generated.references =
    (converted.filterMap (·.conversion.valueClass?)).eraseDups

section
variable {naming : Naming}

/-- The value class of a conversion is that of the shape it is made for. -/
theorem Shape.conversion_valueClass? {item entry : String} {shape : Shape} {conversion : Conversion}
    (h : shape.conversion naming item entry = .ok conversion) :
    conversion.valueClass? = shape.valueClass? := by
  cases shape with
  | verbatim =>
    cases h
    rfl
  | nested value | nestedList value | nestedMap key value =>
    obtain ⟨_, -, h⟩ := bind_eq_ok.1 h
    cases h
    rfl

/-- A conversion goes through the shadow class of its value class. -/
theorem PropertyType.Crosses.shadowName {type : PropertyType} {conversion : Conversion}
    (h : type.Crosses naming conversion) {value : QualifiedName}
    (hvalue : conversion.valueClass? = some value) :
    ∃ shadow, naming.shadowName value = .ok shadow ∧ conversion.shadowClass? = some shadow := by
  cases h with
  | copied => cases hvalue
  | nested h | list h | keyedList h | map h =>
    cases hvalue
    exact ⟨_, h, rfl⟩

/-- The conversion made for the shape of a type is a conversion of the type. -/
theorem PropertyType.crosses_of_shape {item entry : String} {type : PropertyType} {shape : Shape}
    {conversion : Conversion} (hshape : type.shape = .ok shape)
    (h : shape.conversion naming item entry = .ok conversion) : type.Crosses naming conversion := by
  cases shape with
  | verbatim =>
    cases h
    exact .copied hshape
  | nested value =>
    obtain ⟨shadow, hshadow, h⟩ := bind_eq_ok.1 h
    cases h
    cases type with
    | valueRef name =>
      cases hshape
      exact .nested hshadow
    | primitive | parameterized => cases hshape
    | collection kind element => cases kind <;> cases element <;> cases hshape
    | keyed kind key element => cases kind <;> cases key <;> cases element <;> cases hshape
  | nestedList value =>
    obtain ⟨shadow, hshadow, h⟩ := bind_eq_ok.1 h
    cases h
    cases type with
    | valueRef | primitive | parameterized => cases hshape
    | collection kind element =>
      cases kind <;> cases element <;> cases hshape
      exact .list hshadow
    | keyed kind key element =>
      cases kind with
      | list =>
        cases element <;> cases hshape
        exact .keyedList hshadow
      | map => cases key <;> cases element <;> cases hshape
  | nestedMap mapKey value =>
    obtain ⟨shadow, hshadow, h⟩ := bind_eq_ok.1 h
    cases h
    cases type with
    | valueRef | primitive | parameterized => cases hshape
    | collection kind element => cases kind <;> cases element <;> cases hshape
    | keyed kind key element =>
      cases kind with
      | list => cases element <;> cases hshape
      | map =>
        cases key <;> cases element <;> cases hshape
        exact .map hshadow

/-- A converted property is the property of a shaped one with the conversion of its shape. -/
theorem ConvertedProperty.ofShaped_eq_ok {item entry : String} {shaped : ShapedProperty}
    {converted : ConvertedProperty}
    (h : ConvertedProperty.ofShaped naming item entry shaped = .ok converted) :
    converted.property = shaped.property ∧
      shaped.shape.conversion naming item entry = .ok converted.conversion := by
  obtain ⟨conversion, hconversion, h⟩ := bind_eq_ok.1 h
  cases h
  exact ⟨rfl, hconversion⟩

/-- The converted properties are the given ones in their order, each with a conversion of its
type. -/
theorem ConvertedProperty.property_and_crosses {item entry : String} {properties : List Property}
    {shaped : List ShapedProperty} {converted : List ConvertedProperty}
    (hshaped : properties.mapM Property.shaped = .ok shaped)
    (h : shaped.mapM (ConvertedProperty.ofShaped naming item entry) = .ok converted) :
    converted.map (·.property) = properties ∧
      ∀ c ∈ converted, c.property.type.Crosses naming c.conversion := by
  have hproperties := mapM_eq_ok.1 hshaped
  have hconverted := mapM_eq_ok.1 h
  clear hshaped h
  induction hproperties generalizing converted with
  | nil =>
    cases hconverted
    exact ⟨rfl, by simp⟩
  | @cons property _ _ _ hshape _ ih =>
    cases hconverted with
    | @cons _ c _ _ hconversion hrest =>
      obtain ⟨rfl, -, hshape⟩ := Property.shaped_eq_ok.1 hshape
      obtain ⟨hproperty, hconversion⟩ := ConvertedProperty.ofShaped_eq_ok hconversion
      have hcrosses := PropertyType.crosses_of_shape hshape hconversion
      obtain ⟨hmap, hall⟩ := ih hrest
      rw [← hproperty] at hcrosses
      exact ⟨by rw [List.map_cons, hproperty, hmap], List.forall_mem_cons.2 ⟨hcrosses, hall⟩⟩

/-- The value classes of the shapes are those of the conversions, in the same order. -/
theorem filterMap_valueClass? {item entry : String} {shaped : List ShapedProperty}
    {converted : List ConvertedProperty}
    (h : shaped.mapM (ConvertedProperty.ofShaped naming item entry) = .ok converted) :
    shaped.filterMap (·.shape.valueClass?) = converted.filterMap (·.conversion.valueClass?) := by
  have hconverted := mapM_eq_ok.1 h
  clear h
  induction hconverted with
  | nil => rfl
  | cons hconversion _ ih =>
    obtain ⟨-, hconversion⟩ := ConvertedProperty.ofShaped_eq_ok hconversion
    rw [List.filterMap_cons, List.filterMap_cons, Shape.conversion_valueClass? hconversion, ih]

/-- The wrapper of a value class has the name of the class being generated. -/
theorem WrapperClass.name_of_ofValue {value : ValueClass} {wrapper : WrapperClass}
    (h : WrapperClass.ofValue naming value = .ok wrapper) :
    naming.classBeingGenerated value = .ok wrapper.name := by
  obtain ⟨name, hname, h⟩ := bind_eq_ok.1 h
  obtain ⟨superclass, -, h⟩ := bind_eq_ok.1 h
  cases h
  exact hname

/-- A wrapper is generated wherever the class being generated has a name. -/
theorem WrapperClass.exists_ofValue {value : ValueClass} {name : QualifiedName}
    (h : naming.classBeingGenerated value = .ok name) :
    ∃ wrapper, WrapperClass.ofValue naming value = .ok wrapper := by
  obtain ⟨superclass, hsuperclass⟩ : ∃ superclass, naming.superclass value = .ok superclass := by
    rw [Naming.superclass]
    cases value.superclassName with
    | some name => exact ⟨name, rfl⟩
    | none => exact ⟨_, bind_eq_ok.2 ⟨_, h, rfl⟩⟩
  exact ⟨_, bind_eq_ok.2 ⟨_, h, bind_eq_ok.2 ⟨_, hsuperclass, rfl⟩⟩⟩

/-- A shadow class lies in the class being generated. The method that goes back has the name that
the naming gives it and returns the last class of the chain. -/
theorem ShadowClass.exists_name_of_ofShaped {value : ValueClass} {shaped : List ShapedProperty}
    {shadow : ShadowClass} (h : ShadowClass.ofShaped naming value shaped = .ok shadow) :
    ∃ name, naming.classBeingGenerated value = .ok name ∧
      shadow.name = name.nested naming.shadowSuffix ∧ shadow.source = value.name ∧
      shadow.reverseConversion.name = naming.reverseConversion ∧
      shadow.reverseConversion.returnType = naming.canonical name := by
  obtain ⟨name, hname, h⟩ := bind_eq_ok.1 h
  obtain ⟨converted, -, h⟩ := bind_eq_ok.1 h
  cases h
  exact ⟨name, hname, rfl, rfl, rfl, rfl⟩

/-- What is generated for a value class is its shadow class, made from the shapes of its properties,
and its wrapper. -/
theorem GeneratedClass.ofValue_eq_ok {value : ValueClass} {generated : GeneratedClass} :
    GeneratedClass.ofValue naming value = .ok generated ↔
      ∃ shaped shadow wrapper, value.schema.shaped = .ok shaped ∧
        ShadowClass.ofShaped naming value shaped = .ok shadow ∧
        WrapperClass.ofValue naming value = .ok wrapper ∧
        generated = ⟨value.name, wrapper, shadow, referencedValueClasses shaped⟩ := by
  simp only [GeneratedClass.ofValue, bind_eq_ok]
  constructor
  · rintro ⟨shaped, hshaped, shadow, hshadow, wrapper, hwrapper, h⟩
    cases h
    exact ⟨shaped, shadow, wrapper, hshaped, hshadow, hwrapper, rfl⟩
  · rintro ⟨shaped, shadow, wrapper, hshaped, hshadow, hwrapper, rfl⟩
    exact ⟨shaped, hshaped, shadow, hshadow, wrapper, hwrapper, rfl⟩

/-- A shadow class that can be made is generated. -/
theorem GeneratedClass.exists_of_ofShaped {value : ValueClass} {shaped : List ShapedProperty}
    {shadow : ShadowClass} (hshaped : value.schema.shaped = .ok shaped)
    (hshadow : ShadowClass.ofShaped naming value shaped = .ok shadow) :
    ∃ generated, GeneratedClass.ofValue naming value = .ok generated ∧
      generated.shadow = shadow := by
  obtain ⟨name, hname, -⟩ := ShadowClass.exists_name_of_ofShaped hshadow
  obtain ⟨wrapper, hwrapper⟩ := WrapperClass.exists_ofValue hname
  exact ⟨_, GeneratedClass.ofValue_eq_ok.2
    ⟨shaped, shadow, wrapper, hshaped, hshadow, hwrapper, rfl⟩, rfl⟩

/-- Everything generated for a value class is made from one list of converted properties. -/
theorem GeneratedClass.exists_assembled {value : ValueClass} {generated : GeneratedClass}
    (h : GeneratedClass.ofValue naming value = .ok generated) :
    ∃ converted, generated.Assembled naming value converted := by
  obtain ⟨shaped, shadow, wrapper, hshaped, hshadow, hwrapper, rfl⟩ :=
    GeneratedClass.ofValue_eq_ok.1 h
  obtain ⟨name, hname, hshadow⟩ := bind_eq_ok.1 hshadow
  obtain ⟨converted, hconverted, hshadow⟩ := bind_eq_ok.1 hshadow
  cases hshadow
  have hwrapper := WrapperClass.name_of_ofValue hwrapper
  obtain ⟨hproperties, hcrosses⟩ := ConvertedProperty.property_and_crosses hshaped hconverted
  refine ⟨converted, rfl, hwrapper, ?_, rfl, hproperties, hcrosses, rfl, rfl, rfl, rfl, rfl,
    ?_⟩
  · rw [hname] at hwrapper
    cases hwrapper
    rfl
  · rw [referencedValueClasses, filterMap_valueClass? hconverted]

/-- A value class without properties and without a name of its own is generated if its name passes
its check. -/
theorem GeneratedClass.exists_ofValue (naming : Naming) (value : ValueClass)
    (hcheck : value.name.check = .ok ()) (hown : value.generatedName = none)
    (hschema : value.schema = .empty) :
    ∃ generated, GeneratedClass.ofValue naming value = .ok generated ∧ generated.wrapper.name =
      .ofClass value.name.package (naming.generatedSimpleName value.name) := by
  have hname : naming.classBeingGenerated value =
      .ok (.ofClass value.name.package (naming.generatedSimpleName value.name)) := by
    simp [Naming.classBeingGenerated, hown, Naming.generatedClass, hcheck]
  have hshaped : value.schema.shaped = .ok [] := by
    rw [hschema]
    rfl
  obtain ⟨shadow, hshadow⟩ : ∃ shadow, ShadowClass.ofShaped naming value [] = .ok shadow :=
    ⟨_, bind_eq_ok.2 ⟨_, hname, rfl⟩⟩
  obtain ⟨generated, hgenerated, -⟩ := GeneratedClass.exists_of_ofShaped hshaped hshadow
  refine ⟨generated, hgenerated, ?_⟩
  obtain ⟨_, hassembled⟩ := GeneratedClass.exists_assembled hgenerated
  exact Except.ok.inj (hassembled.wrapperName.symm.trans hname)

/-- The references of a generated class are the value classes that its conversions go through. -/
theorem GeneratedClass.Assembled.mem_references {value : ValueClass} {generated : GeneratedClass}
    {converted : List ConvertedProperty} (h : generated.Assembled naming value converted)
    {reference : QualifiedName} :
    reference ∈ generated.references ↔
      ∃ c ∈ converted, c.conversion.valueClass? = some reference := by
  rw [h.references, List.mem_eraseDups, List.mem_filterMap]

/-- The conversions of a generated class are those of the converted properties. -/
theorem GeneratedClass.Assembled.mem_conversions {value : ValueClass} {generated : GeneratedClass}
    {converted : List ConvertedProperty} (h : generated.Assembled naming value converted)
    {conversion : Conversion} :
    conversion ∈ generated.shadow.conversions ↔ ∃ c ∈ converted, c.conversion = conversion := by
  rw [ShadowClass.conversions, h.assignments, h.bindings, List.map_map, List.map_map,
    List.mem_append, List.mem_map, List.mem_map]
  exact or_self_iff

/-- A generated class converts through its references, each with the shadow class that the name of
the reference spells. -/
theorem GeneratedClass.Assembled.converts_iff {value : ValueClass} {generated : GeneratedClass}
    {converted : List ConvertedProperty} (h : generated.Assembled naming value converted)
    {reference shadow : QualifiedName} :
    generated.Converts reference shadow ↔
      reference ∈ generated.references ∧ naming.shadowName reference = .ok shadow := by
  rw [h.mem_references]
  constructor
  · rintro ⟨conversion, hmem, hvalue, hshadow⟩
    obtain ⟨c, hc, rfl⟩ := h.mem_conversions.1 hmem
    obtain ⟨shadow', hname, hshadow'⟩ := (h.crosses c hc).shadowName hvalue
    cases hshadow.symm.trans hshadow'
    exact ⟨⟨c, hc, hvalue⟩, hname⟩
  · rintro ⟨⟨c, hc, hvalue⟩, hname⟩
    obtain ⟨shadow', hname', hshadow⟩ := (h.crosses c hc).shadowName hvalue
    cases hname.symm.trans hname'
    exact ⟨c.conversion, h.mem_conversions.2 ⟨c, hc, rfl⟩, hvalue, hshadow⟩

end

end ValueShadow
