import ValueShadow.Proofs.Naming.Stages
import ValueShadow.Proofs.Shape
import ValueShadow.Proofs.ShadowClass.Assembly
import ValueShadow.Session

/-!
# When a class is generated

The conditions under which a class is generated for a value class (`ValueClass.IsGenerable`) and,
for each of them in their order, what is reported when it is the first that fails
(`FirstObstacle`). Nothing else stands in the way: the wrapper is made wherever the shadow class is.
The references of what is generated are the value classes that the types hold, in the order of their
first use (`generates_or_reports_first`).
-/

namespace ValueShadow

/-- The value class that the type holds, if any, has a name that can be spelled. -/
def PropertyType.HoldsSpellable (type : PropertyType) : Prop :=
  ∀ reference, type.heldValueClass? = some reference → reference.IsSpellable

/-- The value class asks for no name of its own, or for an identifier whose canonical class is the
one that references spell. -/
def Naming.Grants (naming : Naming) (value : ValueClass) : Prop :=
  ∀ simpleName, value.generatedName = some simpleName →
    isIdentifier simpleName = true ∧
      naming.generatedClass value.name =
        .ok (naming.canonical (.ofClass value.name.package simpleName))

/-- Why the name that a value class asks for is refused. That it is an identifier is checked before
the class is compared with the expected one. -/
inductive Naming.Refuses (naming : Naming) (value : ValueClass) : ShadowError → Prop where
  | notIdentifier {simpleName : String} : value.generatedName = some simpleName →
      ¬ isIdentifier simpleName = true →
      Refuses naming value
        (.ambiguousName (.ofClass value.name.package simpleName) (.simpleName simpleName))
  | mismatch {simpleName : String} {expected : QualifiedName} :
      value.generatedName = some simpleName → isIdentifier simpleName = true →
      naming.generatedClass value.name = .ok expected →
      naming.canonical (.ofClass value.name.package simpleName) ≠ expected →
      Refuses naming value
        (.ambiguousName (.ofClass value.name.package simpleName) (.mismatch expected))

/-- A class can be generated for the value class. -/
structure ValueClass.IsGenerable (naming : Naming) (value : ValueClass) : Prop where
  types : ∀ property ∈ value.schema.properties, property.type.IsSupported
  name : value.name.IsSpellable
  ownName : naming.Grants value
  references : ∀ property ∈ value.schema.properties, property.type.HoldsSpellable

/-- The first condition that fails and what is reported for it. Where it is one on the properties,
the first of these that breaks it is meant. -/
inductive FirstObstacle (naming : Naming) (value : ValueClass) : ShadowError → Prop where
  | unsupportedType {property : Property} {reason : UnsupportedReason} :
      FirstFailing (·.type.IsSupported) value.schema.properties property →
      property.type.RejectedFor reason →
      FirstObstacle naming value (.unsupportedType property.name property.type reason)
  | name {problem : NameProblem} :
      (∀ property ∈ value.schema.properties, property.type.IsSupported) →
      value.name.FirstProblem problem →
      FirstObstacle naming value (.ambiguousName value.name problem)
  | ownName {error : ShadowError} :
      (∀ property ∈ value.schema.properties, property.type.IsSupported) →
      value.name.IsSpellable → naming.Refuses value error →
      FirstObstacle naming value error
  | reference {property : Property} {reference : QualifiedName} {problem : NameProblem} :
      (∀ property ∈ value.schema.properties, property.type.IsSupported) →
      value.name.IsSpellable → naming.Grants value →
      FirstFailing (·.type.HoldsSpellable) value.schema.properties property →
      property.type.heldValueClass? = some reference → reference.FirstProblem problem →
      FirstObstacle naming value (.ambiguousName reference problem)

section
variable {naming : Naming} {value : ValueClass}

/-! ## The names -/

namespace Naming

/-- A generated class has no name exactly where the name of its value class fails its check. -/
theorem generatedClass_eq_error {name : QualifiedName} {e : ShadowError} :
    naming.generatedClass name = .error e ↔ name.check = .error e := by
  rw [generatedClass, bind_eq_error]
  simp [pure, Except.pure]

/-- The class being generated has a name if that of the value class can be spelled and the name it
asks for is granted. -/
theorem exists_classBeingGenerated_iff :
    (∃ name, naming.classBeingGenerated value = .ok name) ↔
      value.name.IsSpellable ∧ naming.Grants value := by
  simp only [classBeingGenerated_eq_ok, exists_and_left]
  rw [QualifiedName.check_eq_ok]
  refine and_congr_right fun hname => ?_
  have hcheck := QualifiedName.check_eq_ok.2 hname
  constructor
  · rintro ⟨name, ⟨hown, -⟩ | ⟨simpleName, hown, rfl, hspelled, hcanonical⟩⟩ asked hasked
    · cases hown.symm.trans hasked
    · cases hown.symm.trans hasked
      exact ⟨(check_ofClass_eq_ok hcheck).1 hspelled,
        generatedClass_eq_ok.2 ⟨hcheck, hcanonical⟩⟩
  · intro hgrants
    cases hown : value.generatedName with
    | none => exact ⟨_, .inl ⟨rfl, rfl⟩⟩
    | some simpleName =>
      obtain ⟨hidentifier, hcanonical⟩ := hgrants simpleName hown
      exact ⟨_, .inr ⟨simpleName, rfl, rfl, (check_ofClass_eq_ok hcheck).2 hidentifier,
        (generatedClass_eq_ok.1 hcanonical).2⟩⟩

/-- A class beside one whose name can be spelled fails its check if its simple name is no
identifier. -/
theorem check_ofClass_eq_error {name : QualifiedName} (hname : name.IsSpellable)
    {simpleName : String} {e : ShadowError} :
    (QualifiedName.ofClass name.package simpleName).check = .error e ↔
      ¬ isIdentifier simpleName = true ∧
        e = .ambiguousName (.ofClass name.package simpleName) (.simpleName simpleName) := by
  obtain ⟨hpackage, -⟩ := hname
  rw [QualifiedName.check_eq_error]
  constructor
  · rintro ⟨_, hfirst | ⟨-, hfirst⟩, rfl⟩
    · exact absurd (hpackage _ hfirst.mem) hfirst.not_good
    · obtain rfl : _ = simpleName := by simpa [QualifiedName.ofClass] using hfirst.mem
      exact ⟨hfirst.not_good, rfl⟩
  · rintro ⟨hbad, rfl⟩
    exact ⟨_, .simpleName hpackage (firstFailing_cons.2 (.inl ⟨rfl, hbad⟩)), rfl⟩

/-- Otherwise the first problem of the name of the value class is reported, and if there is none,
why the name it asks for is refused. -/
theorem classBeingGenerated_eq_error {e : ShadowError} :
    naming.classBeingGenerated value = .error e ↔
      (∃ problem, value.name.FirstProblem problem ∧ e = .ambiguousName value.name problem) ∨
        value.name.IsSpellable ∧ naming.Refuses value e := by
  rw [classBeingGenerated, bind_eq_error, generatedClass_eq_error, QualifiedName.check_eq_error]
  refine or_congr_right ⟨?_, ?_⟩
  · rintro ⟨expected, hexpected, h⟩
    obtain ⟨hcheck, -⟩ := generatedClass_eq_ok.1 hexpected
    have hname := QualifiedName.check_eq_ok.1 hcheck
    refine ⟨hname, ?_⟩
    split at h
    · cases h
    · next simpleName hown =>
      rcases bind_eq_error.1 h with herror | ⟨_, hspelled, h⟩
      · obtain ⟨hbad, rfl⟩ := (check_ofClass_eq_error hname).1 herror
        exact .notIdentifier hown hbad
      · split at h
        · cases h
        · next hcanonical =>
          cases h
          exact .mismatch hown ((check_ofClass_eq_ok hcheck).1 hspelled) hexpected hcanonical
  · rintro ⟨hname, hrefuses⟩
    have hcheck := QualifiedName.check_eq_ok.2 hname
    cases hrefuses with
    | notIdentifier hown hbad =>
      refine ⟨_, generatedClass_eq_ok.2 ⟨hcheck, rfl⟩, ?_⟩
      rw [hown]
      exact bind_eq_error.2 (.inl ((check_ofClass_eq_error hname).2 ⟨hbad, rfl⟩))
    | mismatch hown hidentifier hexpected hcanonical =>
      refine ⟨_, hexpected, ?_⟩
      rw [hown]
      refine bind_eq_error.2 (.inr ⟨(), (check_ofClass_eq_ok hcheck).2 hidentifier, ?_⟩)
      rw [if_neg hcanonical]
      rfl

end Naming

/-! ## The conversions -/

/-- A shape is converted if the name of its value class, if any, can be spelled. -/
theorem Shape.exists_conversion_iff {item entry : String} {shape : Shape} :
    (∃ conversion, shape.conversion naming item entry = .ok conversion) ↔
      ∀ reference, shape.valueClass? = some reference → reference.IsSpellable := by
  cases shape with
  | verbatim => exact iff_of_true ⟨_, rfl⟩ nofun
  | nested value | nestedList value | nestedMap key value =>
    simp only [conversion, valueClass?, Option.some.injEq, forall_eq', bind_eq_ok]
    constructor
    · rintro ⟨_, shadow, hshadow, -⟩
      obtain ⟨_, hgenerated, -⟩ := Naming.shadowName_eq_ok.1 hshadow
      exact QualifiedName.check_eq_ok.1 (Naming.generatedClass_eq_ok.1 hgenerated).1
    · intro hspellable
      have hgenerated : naming.generatedClass value = .ok _ :=
        Naming.generatedClass_eq_ok.2 ⟨QualifiedName.check_eq_ok.2 hspellable, rfl⟩
      exact ⟨_, _, Naming.shadowName_eq_ok.2 ⟨_, hgenerated, rfl⟩, rfl⟩

/-- Otherwise the first problem of that name is reported. -/
theorem Shape.conversion_eq_error {item entry : String} {shape : Shape} {e : ShadowError} :
    shape.conversion naming item entry = .error e ↔
      ∃ reference problem, shape.valueClass? = some reference ∧
        reference.FirstProblem problem ∧ e = .ambiguousName reference problem := by
  cases shape with
  | verbatim => exact iff_of_false nofun (by simp [valueClass?])
  | nested value | nestedList value | nestedMap key value =>
    simp [conversion, valueClass?, Naming.shadowName, bind_eq_error,
      Naming.generatedClass_eq_error, QualifiedName.check_eq_error, pure, Except.pure]

/-- A property whose type has the shape is converted exactly if the shape is. -/
theorem ConvertedProperty.exists_ofShaped_iff {item entry : String} {s : ShapedProperty}
    (hshape : s.property.type.shape = .ok s.shape) :
    (∃ converted, ConvertedProperty.ofShaped naming item entry s = .ok converted) ↔
      s.property.type.HoldsSpellable := by
  rw [PropertyType.HoldsSpellable, ← PropertyType.valueClass?_of_shape hshape,
    ← Shape.exists_conversion_iff]
  constructor
  · rintro ⟨converted, h⟩
    exact ⟨_, (ConvertedProperty.ofShaped_eq_ok h).2⟩
  · rintro ⟨conversion, h⟩
    exact ⟨_, bind_eq_ok.2 ⟨conversion, h, rfl⟩⟩

/-- Otherwise the first problem of the name of the value class is reported. -/
theorem ConvertedProperty.ofShaped_eq_error {item entry : String} {s : ShapedProperty}
    (hshape : s.property.type.shape = .ok s.shape) {e : ShadowError} :
    ConvertedProperty.ofShaped naming item entry s = .error e ↔
      ∃ reference problem, s.property.type.heldValueClass? = some reference ∧
        reference.FirstProblem problem ∧ e = .ambiguousName reference problem := by
  rw [ConvertedProperty.ofShaped, bind_eq_error, Shape.conversion_eq_error,
    PropertyType.valueClass?_of_shape hshape]
  simp [pure, Except.pure]

/-- The properties of a schema are all converted if the value classes that they hold can all be
spelled. -/
theorem Schema.exists_converted_iff {item entry : String} {schema : Schema}
    {shaped : List ShapedProperty} (hshaped : schema.shaped = .ok shaped) :
    (∃ converted, shaped.mapM (ConvertedProperty.ofShaped naming item entry) = .ok converted) ↔
      ∀ property ∈ schema.properties, property.type.HoldsSpellable := by
  rw [exists_mapM_eq_ok, ← Schema.map_property_of_shaped hshaped, List.forall_mem_map]
  refine forall₂_congr fun s hs => ConvertedProperty.exists_ofShaped_iff ?_
  exact (Schema.category?_and_shape_of_shaped hshaped hs).2

/-- Otherwise the first property that holds another value class is found. -/
theorem Schema.converted_eq_error {item entry : String} {schema : Schema}
    {shaped : List ShapedProperty} (hshaped : schema.shaped = .ok shaped) {e : ShadowError} :
    shaped.mapM (ConvertedProperty.ofShaped naming item entry) = .error e ↔
      ∃ property reference problem,
        FirstFailing (·.type.HoldsSpellable) schema.properties property ∧
          property.type.heldValueClass? = some reference ∧ reference.FirstProblem problem ∧
          e = .ambiguousName reference problem := by
  have hshapes : ∀ s ∈ shaped, s.property.type.shape = .ok s.shape :=
    fun s hs => (Schema.category?_and_shape_of_shaped hshaped hs).2
  -- Shaping keeps the order, so the first shaped property that fails comes from the first property.
  have hfirst : ∀ s, FirstFailing
      (fun s => ∃ converted, ConvertedProperty.ofShaped naming item entry s = .ok converted)
        shaped s ↔
      FirstFailing ((·.type.HoldsSpellable) ∘ ShapedProperty.property) shaped s :=
    fun s => firstFailing_congr fun s hs => ConvertedProperty.exists_ofShaped_iff (hshapes s hs)
  simp only [← Schema.map_property_of_shaped hshaped, firstFailing_map, mapM_eq_error, hfirst]
  constructor
  · rintro ⟨s, hs, h⟩
    obtain ⟨reference, problem, h⟩ :=
      (ConvertedProperty.ofShaped_eq_error (hshapes s hs.mem)).1 h
    exact ⟨_, reference, problem, ⟨s, hs, rfl⟩, h⟩
  · rintro ⟨_, reference, problem, ⟨s, hs, rfl⟩, h⟩
    exact ⟨s, hs, (ConvertedProperty.ofShaped_eq_error (hshapes s hs.mem)).2
      ⟨reference, problem, h⟩⟩

/-! ## The classes -/

/-- A shadow class is made of accepted properties if the class being generated has a name and all
value classes that the properties hold can be spelled. -/
theorem ShadowClass.exists_ofShaped_iff {shaped : List ShapedProperty}
    (hshaped : value.schema.shaped = .ok shaped) :
    (∃ shadow, ShadowClass.ofShaped naming value shaped = .ok shadow) ↔
      (value.name.IsSpellable ∧ naming.Grants value) ∧
        ∀ property ∈ value.schema.properties, property.type.HoldsSpellable := by
  rw [← Naming.exists_classBeingGenerated_iff, ← Schema.exists_converted_iff hshaped]
  constructor
  · rintro ⟨shadow, h⟩
    obtain ⟨name, hname, h⟩ := bind_eq_ok.1 h
    obtain ⟨converted, hconverted, -⟩ := bind_eq_ok.1 h
    exact ⟨⟨name, hname⟩, converted, hconverted⟩
  · rintro ⟨⟨name, hname⟩, converted, hconverted⟩
    exact ⟨_, bind_eq_ok.2 ⟨name, hname, bind_eq_ok.2 ⟨converted, hconverted, rfl⟩⟩⟩

/-- Otherwise the class being generated has no name, or a value class cannot be spelled. -/
theorem ShadowClass.ofShaped_eq_error {shaped : List ShapedProperty}
    (hshaped : value.schema.shaped = .ok shaped) {e : ShadowError} :
    ShadowClass.ofShaped naming value shaped = .error e ↔
      naming.classBeingGenerated value = .error e ∨
        (value.name.IsSpellable ∧ naming.Grants value) ∧ ∃ property reference problem,
          FirstFailing (·.type.HoldsSpellable) value.schema.properties property ∧
            property.type.heldValueClass? = some reference ∧ reference.FirstProblem problem ∧
            e = .ambiguousName reference problem := by
  rw [← Naming.exists_classBeingGenerated_iff, ShadowClass.ofShaped, bind_eq_error]
  refine or_congr_right ?_
  constructor
  · rintro ⟨name, hname, h⟩
    rcases bind_eq_error.1 h with hconverted | ⟨_, -, h⟩
    · exact ⟨⟨name, hname⟩, (Schema.converted_eq_error hshaped).1 hconverted⟩
    · cases h
  · rintro ⟨⟨name, hname⟩, h⟩
    exact ⟨name, hname, bind_eq_error.2 (.inl ((Schema.converted_eq_error hshaped).2 h))⟩

/-- A class is generated wherever its shadow class can be made. -/
theorem GeneratedClass.exists_ofValue_iff :
    (∃ generated, GeneratedClass.ofValue naming value = .ok generated) ↔
      value.IsGenerable naming := by
  constructor
  · rintro ⟨generated, h⟩
    obtain ⟨shaped, shadow, -, hshaped, hshadow, -⟩ := GeneratedClass.ofValue_eq_ok.1 h
    obtain ⟨⟨hname, hgrants⟩, hheld⟩ :=
      (ShadowClass.exists_ofShaped_iff hshaped).1 ⟨shadow, hshadow⟩
    exact ⟨Schema.exists_shaped_iff.1 ⟨shaped, hshaped⟩, hname, hgrants, hheld⟩
  · rintro ⟨htypes, hname, hgrants, hheld⟩
    obtain ⟨shaped, hshaped⟩ := Schema.exists_shaped_iff.2 htypes
    obtain ⟨shadow, hshadow⟩ :=
      (ShadowClass.exists_ofShaped_iff hshaped).2 ⟨⟨hname, hgrants⟩, hheld⟩
    obtain ⟨generated, hgenerated, -⟩ := GeneratedClass.exists_of_ofShaped hshaped hshadow
    exact ⟨generated, hgenerated⟩

/-- Every error is one of the types or one of the shadow class: the wrapper has none of its own. -/
theorem GeneratedClass.ofValue_eq_error_iff {e : ShadowError} :
    GeneratedClass.ofValue naming value = .error e ↔
      value.schema.shaped = .error e ∨ (∃ shaped, value.schema.shaped = .ok shaped) ∧
        (naming.classBeingGenerated value = .error e ∨
          (value.name.IsSpellable ∧ naming.Grants value) ∧ ∃ property reference problem,
            FirstFailing (·.type.HoldsSpellable) value.schema.properties property ∧
              property.type.heldValueClass? = some reference ∧ reference.FirstProblem problem ∧
              e = .ambiguousName reference problem) := by
  rw [GeneratedClass.ofValue, bind_eq_error, ← exists_and_right]
  refine or_congr_right (exists_congr fun shaped => and_congr_right fun hshaped => ?_)
  rw [bind_eq_error, ShadowClass.ofShaped_eq_error hshaped, or_iff_left]
  rintro ⟨shadow, hshadow, h⟩
  obtain ⟨generated, hgenerated, -⟩ := GeneratedClass.exists_of_ofShaped hshaped hshadow
  have herror : GeneratedClass.ofValue naming value = .error e :=
    bind_eq_error.2 (.inr ⟨shaped, hshaped, bind_eq_error.2 (.inr ⟨shadow, hshadow, h⟩)⟩)
  cases hgenerated.symm.trans herror

/-- Where no class is generated, the first obstacle is reported. -/
theorem GeneratedClass.ofValue_eq_error {e : ShadowError} :
    GeneratedClass.ofValue naming value = .error e ↔ FirstObstacle naming value e := by
  rw [GeneratedClass.ofValue_eq_error_iff, Schema.shaped_eq_error, Schema.exists_shaped_iff,
    Naming.classBeingGenerated_eq_error]
  constructor
  · rintro (⟨property, reason, hfirst, hrejected, rfl⟩ | ⟨htypes, h⟩)
    · exact .unsupportedType hfirst hrejected
    rcases h with (⟨problem, hproblem, rfl⟩ | ⟨hname, hrefuses⟩) |
      ⟨⟨hname, hgrants⟩, property, reference, problem, hfirst, hheld, hproblem, rfl⟩
    · exact .name htypes hproblem
    · exact .ownName htypes hname hrefuses
    · exact .reference htypes hname hgrants hfirst hheld hproblem
  · intro hobstacle
    cases hobstacle with
    | unsupportedType hfirst hrejected => exact .inl ⟨_, _, hfirst, hrejected, rfl⟩
    | name htypes hproblem => exact .inr ⟨htypes, .inl (.inl ⟨_, hproblem, rfl⟩)⟩
    | ownName htypes hname hrefuses => exact .inr ⟨htypes, .inl (.inr ⟨hname, hrefuses⟩)⟩
    | reference htypes hname hgrants hfirst hheld hproblem =>
      exact .inr ⟨htypes, .inr ⟨⟨hname, hgrants⟩, _, _, _, hfirst, hheld, hproblem, rfl⟩⟩

/-! ## The references -/

/-- The conversion of a type goes through the value class that the type holds. -/
theorem PropertyType.Crosses.valueClass?_eq {type : PropertyType} {conversion : Conversion}
    (h : type.Crosses naming conversion) : conversion.valueClass? = type.heldValueClass? := by
  cases h with
  | copied hshape =>
    rw [← PropertyType.valueClass?_of_shape hshape]
    rfl
  | nested | list | keyedList | map => rfl

/-- The value classes that the assignments of the forward constructor convert through, one after the
other. -/
def GeneratedClass.convertedValueClasses (generated : GeneratedClass) : List QualifiedName :=
  generated.shadow.forwardConstructor.assignments.filterMap (·.conversion.valueClass?)

/-- They are the value classes that the types hold. -/
theorem GeneratedClass.Assembled.converted_eq {generated : GeneratedClass}
    {converted : List ConvertedProperty} (h : generated.Assembled naming value converted) :
    generated.convertedValueClasses =
      value.schema.properties.filterMap (·.type.heldValueClass?) := by
  rw [GeneratedClass.convertedValueClasses, h.assignments, ← h.properties, List.filterMap_map,
    List.filterMap_map]
  exact List.filterMap_congr fun c hc => (h.crosses c hc).valueClass?_eq

/-- Without their repeats they are the references. -/
theorem GeneratedClass.Assembled.references_eq {generated : GeneratedClass}
    {converted : List ConvertedProperty} (h : generated.Assembled naming value converted) :
    generated.references = generated.convertedValueClasses.eraseDups := by
  rw [h.references, GeneratedClass.convertedValueClasses, h.assignments, List.filterMap_map]
  rfl

end

/-- A class is generated for a value class on its own exactly if all its types are supported, its
name can be spelled, the name that it asks for is granted and the value classes that its types hold
can be spelled. Otherwise the first of these that fails is reported, and where it is one on the
properties, the first of these that breaks it. The wrapper is made wherever the shadow class is. The
references of the generated class are the value classes that its properties are converted through,
each of them once, in the order of their first use. -/
theorem generates_or_reports_first (session : Session) (value : ValueClass) :
    ((∃ generated, session.generate value = .ok generated) ↔
      value.IsGenerable session.settings.naming) ∧
    (∀ e, session.generate value = .error e ↔ FirstObstacle session.settings.naming value e) ∧
    (∀ shaped shadow, value.schema.shaped = .ok shaped →
      ShadowClass.ofShaped session.settings.naming value shaped = .ok shadow →
      ∃ wrapper, WrapperClass.ofValue session.settings.naming value = .ok wrapper) ∧
    ∀ generated, session.generate value = .ok generated →
      generated.convertedValueClasses =
        value.schema.properties.filterMap (·.type.heldValueClass?) ∧
      (∀ reference, reference ∈ generated.references ↔
        reference ∈ generated.convertedValueClasses) ∧
      generated.references.Nodup ∧
      generated.references.Pairwise fun reference later =>
        generated.convertedValueClasses.idxOf reference <
          generated.convertedValueClasses.idxOf later := by
  refine ⟨GeneratedClass.exists_ofValue_iff, fun _ => GeneratedClass.ofValue_eq_error, ?_, ?_⟩
  · intro shaped shadow hshaped hshadow
    obtain ⟨name, hname, -⟩ := ShadowClass.exists_name_of_ofShaped hshadow
    exact WrapperClass.exists_ofValue hname
  · intro generated h
    obtain ⟨_, hassembled⟩ := GeneratedClass.exists_assembled h
    have horder := pairwise_idxOf_eraseDups generated.convertedValueClasses
    rw [← hassembled.references_eq] at horder
    refine ⟨hassembled.converted_eq, fun reference => ?_, ?_, horder⟩
    · rw [hassembled.references_eq, List.mem_eraseDups]
    · refine horder.imp fun hlt heq => ?_
      rw [heq] at hlt
      exact lt_irrefl _ hlt

/-- Items in a list, their owner and one more item, under a name of its own. -/
def basket : ValueClass where
  name := .ofClass "com.example" "Basket"
  generatedName := some "$AutoValue_Basket"
  schema :=
    { properties := [
        ⟨"items", .collection .list (.valueRef (.ofClass "com.example" "Item")), none, []⟩,
        ⟨"owner", .valueRef (.ofClass "com.example" "User"), none, []⟩,
        ⟨"gift", .valueRef (.ofClass "com.example" "Item"), none, []⟩]
      spellable := by decide +kernel
      distinct := by decide }

/-- A basket with nothing right: its name, the name that it asks for, the name of its owner, and an
optional gift. -/
def brokenBasket : ValueClass where
  name := .ofClass "com.example" "2Basket"
  generatedName := some "class"
  schema :=
    { properties := [
        ⟨"owner", .valueRef (.ofClass "com.example" "my-user"), none, []⟩,
        ⟨"gift", .parameterized (.ofClass "java.util" "Optional")
          [.valueRef (.ofClass "com.example" "Item")], none, []⟩]
      spellable := by decide +kernel
      distinct := by decide }

/-- A session without a catalog, with the default names. -/
def uncatalogued : Session where
  settings := {}
  catalog := []

/-- The basket is generated and refers to the item and its owner once each. Of the broken basket the
optional gift is reported, and without its properties the name. -/
theorem generates_or_reports_first_basket :
    (∃ generated, uncatalogued.generate basket = .ok generated ∧
      generated.references.Nodup ∧
      ∀ reference, reference ∈ generated.references ↔
        reference ∈ ["Item", "User", "Item"].map (QualifiedName.ofClass "com.example")) ∧
    (∃ type, uncatalogued.generate brokenBasket =
      .error (.unsupportedType "gift" type .container)) ∧
    uncatalogued.generate { brokenBasket with schema := .empty } =
      .error (.ambiguousName brokenBasket.name (.simpleName "2Basket")) := by
  refine ⟨?_, ?_, ?_⟩
  · obtain ⟨hgenerates, -, -, hreferences⟩ := generates_or_reports_first uncatalogued basket
    have hname : basket.name.IsSpellable := by
      rw [QualifiedName.IsSpellable]
      decide +kernel
    have hbasket : basket.IsGenerable uncatalogued.settings.naming := by
      refine ⟨?_, hname, ?_, ?_⟩
      · simp only [basket, List.forall_mem_cons]
        exact ⟨.list .valueRef, .valueRef, .valueRef, by simp⟩
      · rintro _ ⟨rfl⟩
        refine ⟨by decide +kernel, Naming.generatedClass_eq_ok.2 ?_⟩
        exact ⟨QualifiedName.check_eq_ok.2 hname, by decide +kernel⟩
      · simp only [basket, List.forall_mem_cons, PropertyType.HoldsSpellable,
          PropertyType.heldValueClass?, Option.some.injEq, forall_eq', QualifiedName.IsSpellable]
        decide +kernel
    obtain ⟨generated, h⟩ := hgenerates.2 hbasket
    obtain ⟨hconverted, hmem, hnodup, -⟩ := hreferences generated h
    exact ⟨generated, h, hnodup, fun reference => by rw [hmem, hconverted]; rfl⟩
  · obtain ⟨-, hreports, -⟩ := generates_or_reports_first uncatalogued brokenBasket
    have hgift : FirstFailing (·.type.IsSupported) brokenBasket.schema.properties
        (brokenBasket.schema.properties.get ⟨1, by decide⟩) := by
      refine ⟨brokenBasket.schema.properties.take 1, [], rfl, ?_,
        PropertyType.RejectedFor.container.not_isSupported⟩
      simp [brokenBasket, PropertyType.IsSupported.valueRef]
    exact ⟨_, (hreports _).2 (.unsupportedType hgift .container)⟩
  · obtain ⟨-, hreports, -⟩ :=
      generates_or_reports_first uncatalogued { brokenBasket with schema := .empty }
    refine (hreports _).2 (.name (by simp [Schema.empty]) (.simpleName (by decide +kernel) ?_))
    exact firstFailing_cons.2 (.inl ⟨rfl, by decide +kernel⟩)

end ValueShadow
