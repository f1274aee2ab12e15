import ValueShadow.Java.Source
import ValueShadow.Proofs.Java.Scope
import ValueShadow.Proofs.ShadowClass.Assembly

/-!
# What a file spells

Two spellings that agree on the classes that a generated class mentions write the same lines
(`writes_only_mentions`). Types and annotations are written from the spellings of the classes that
they mention (`typeName_congr`, `annotationLines_congr`). The lines of a conversion spell more than
the conversion mentions (`spelledNames`): the value class is in the type of the property and the
shadow class in the type of the field, and the two types are those of the conversion
(`agree_spelledNames`) because both are made for one property.
-/

namespace ValueShadow.Java

/-- Two spellings write each of the classes alike. -/
def Agree (spell spell' : QualifiedName → String) (names : List QualifiedName) : Prop :=
  ∀ name ∈ names, spell name = spell' name

section
variable {spell spell' : QualifiedName → String}

@[simp]
theorem agree_cons {name : QualifiedName} {names : List QualifiedName} :
    Agree spell spell' (name :: names) ↔ spell name = spell' name ∧ Agree spell spell' names :=
  List.forall_mem_cons

@[simp]
theorem agree_append {names others : List QualifiedName} :
    Agree spell spell' (names ++ others) ↔ Agree spell spell' names ∧ Agree spell spell' others :=
  List.forall_mem_append

@[simp]
theorem agree_flatMap {α : Type} {items : List α} {names : α → List QualifiedName} :
    Agree spell spell' (items.flatMap names) ↔
      ∀ item ∈ items, Agree spell spell' (names item) := by
  simp only [Agree, List.mem_flatMap]
  exact ⟨fun h item hitem name hname => h name ⟨item, hitem, hname⟩,
    fun h name ⟨item, hitem, hname⟩ => h item hitem name hname⟩

@[simp]
theorem agree_map {α : Type} {items : List α} {name : α → QualifiedName} :
    Agree spell spell' (items.map name) ↔
      ∀ item ∈ items, spell (name item) = spell' (name item) :=
  List.forall_mem_map

/-! ## Types -/

/-- A type argument is written like the type, or as a boxing class that the type mentions. -/
theorem typeArgument_eq_of_typeName_eq {type : PropertyType}
    (h : Agree spell spell' (mentionsOfType type))
    (hname : typeName spell type = typeName spell' type) :
    typeArgument spell type = typeArgument spell' type := by
  cases type with
  | primitive simple =>
    cases simple with
    | unboxed kind =>
      rw [typeArgument, typeArgument]
      exact h _ (.head _)
    | boxed | string => simpa only [typeArgument] using hname
  | collection | keyed | valueRef | parameterized => simpa only [typeArgument] using hname

mutual

theorem typeName_congr : ∀ {type : PropertyType}, Agree spell spell' (mentionsOfType type) →
    typeName spell type = typeName spell' type
  | .primitive (.unboxed _), _ => by
    rw [typeName, typeName]
  | .primitive (.boxed _), h | .primitive .string, h | .valueRef _, h => by
    rw [typeName, typeName]
    exact h _ (.head _)
  | .collection _ element, h => by
    obtain ⟨hkind, helement⟩ := agree_cons.1 h
    have hargument := typeArgument_eq_of_typeName_eq helement (typeName_congr helement)
    rw [typeName, typeName, hkind, hargument]
  | .keyed _ key element, h => by
    obtain ⟨hkind, h⟩ := agree_cons.1 h
    obtain ⟨hkey, helement⟩ := agree_append.1 h
    have hargument := typeArgument_eq_of_typeName_eq hkey (typeName_congr hkey)
    have hargument' := typeArgument_eq_of_typeName_eq helement (typeName_congr helement)
    rw [typeName, typeName, hkind, hargument, hargument']
  | .parameterized _ arguments, h => by
    obtain ⟨hraw, harguments⟩ := agree_cons.1 h
    rw [typeName, typeName, hraw, typeArguments_congr harguments]

theorem typeArguments_congr : ∀ {types : List PropertyType},
    Agree spell spell' (mentionsOfTypes types) →
    typeArguments spell types = typeArguments spell' types
  | [], _ => by
    rw [typeArguments, typeArguments]
  | type :: types, h => by
    obtain ⟨htype, htypes⟩ := agree_append.1 h
    have hargument := typeArgument_eq_of_typeName_eq htype (typeName_congr htype)
    rw [typeArguments, typeArguments, hargument, typeArguments_congr htypes]

end

theorem typeArgument_congr {type : PropertyType} (h : Agree spell spell' (mentionsOfType type)) :
    typeArgument spell type = typeArgument spell' type :=
  typeArgument_eq_of_typeName_eq h (typeName_congr h)

/-! ## Members -/

theorem annotationLines_congr {annotations : List AnnotationUse}
    (h : Agree spell spell' (annotations.map (·.typeName))) :
    annotationLines spell annotations = annotationLines spell' annotations := by
  refine List.map_congr_left fun use huse => ?_
  rw [agree_map.1 h use huse]

/-- The classes that the lines of a conversion spell, in the forward constructor and in the reverse
conversion. -/
def spelledNames : Conversion → List QualifiedName
  | .copy => []
  | .nested _ shadow => [shadow]
  | .nestedList value shadow _ => [CollectionKind.list.implementation, value, shadow]
  | .nestedMap key value shadow _ =>
    CollectionKind.map.className :: CollectionKind.map.implementation :: value :: shadow ::
      mentionsOfType (.primitive key)

theorem entryType_congr {key : Primitive} {value : QualifiedName}
    (hmap : spell CollectionKind.map.className = spell' CollectionKind.map.className)
    (hkey : Agree spell spell' (mentionsOfType (.primitive key)))
    (hvalue : spell value = spell' value) :
    entryType spell key value = entryType spell' key value := by
  rw [entryType, entryType, hmap, typeArgument_congr hkey, hvalue]

theorem assignmentLines_congr {assignment : FieldAssignment}
    (h : Agree spell spell' (spelledNames assignment.conversion)) (parameter : String) :
    assignmentLines spell parameter assignment = assignmentLines spell' parameter assignment := by
  obtain ⟨field, accessor, conversion⟩ := assignment
  cases conversion with
  | copy => rfl
  | nested value shadow =>
    simp only [spelledNames, agree_cons] at h
    simp only [assignmentLines, h]
  | nestedList value shadow item =>
    simp only [spelledNames, agree_cons] at h
    simp only [assignmentLines, h]
  | nestedMap key value shadow entry =>
    simp only [spelledNames, agree_cons] at h
    obtain ⟨hmap, himplementation, hvalue, hshadow, hkey⟩ := h
    simp only [assignmentLines, entryType_congr hmap hkey hvalue, himplementation, hshadow]

theorem bindingLines_congr {binding : ReverseBinding}
    (htype : Agree spell spell' (mentionsOfType binding.target.type))
    (h : Agree spell spell' (spelledNames binding.conversion)) (method : String) :
    bindingLines spell method binding = bindingLines spell' method binding := by
  obtain ⟨target, field, conversion⟩ := binding
  have htype := typeName_congr htype
  cases conversion with
  | copy | nested value shadow => simp only [bindingLines, htype]
  | nestedList value shadow item =>
    simp only [spelledNames, agree_cons] at h
    simp only [bindingLines, htype, h]
  | nestedMap key value shadow entry =>
    simp only [spelledNames, agree_cons] at h
    obtain ⟨hmap, himplementation, -, hshadow, hkey⟩ := h
    simp only [bindingLines, htype, entryType_congr hmap hkey hshadow, himplementation]

/-- What the lines of a conversion spell is mentioned by the field and the binding of its
property. -/
theorem agree_spelledNames {naming : Naming} {converted : ConvertedProperty}
    (hcrosses : converted.property.type.Crosses naming converted.conversion)
    (hfield : Agree spell spell' (mentionsOfType converted.fieldType))
    (hbinding : Agree spell spell' (mentionsOfBinding converted.binding)) :
    Agree spell spell' (spelledNames converted.conversion) := by
  obtain ⟨⟨name, type, accessor, annotations⟩, conversion⟩ := converted
  simp only [mentionsOfBinding, ConvertedProperty.binding, ConvertedProperty.fieldType,
    agree_append] at hbinding hfield
  obtain ⟨htype, hconversion⟩ := hbinding
  cases hcrosses with
  | copied => exact fun _ h => nomatch h
  | nested => exact hfield
  | list | keyedList | map =>
    simp only [Conversion.fieldType, mentionsOfType, mentionsOfConversion, agree_append, agree_cons]
      at htype hfield hconversion
    simp only [spelledNames, agree_cons]
    tauto

theorem forwardConstructorLines_congr {forward : ForwardConstructor}
    (hparameter : Agree spell spell' (mentionsOfType forward.parameter.type))
    (h : ∀ assignment ∈ forward.assignments,
      Agree spell spell' (spelledNames assignment.conversion)) (name : String) :
    forwardConstructorLines spell name forward = forwardConstructorLines spell' name forward := by
  have hassignments := List.flatMap_congr fun assignment hassignment =>
    assignmentLines_congr (h assignment hassignment) forward.parameter.name
  simp only [forwardConstructorLines, typeName_congr hparameter, hassignments]

theorem reverseConversionLines_congr {reverse : ReverseConversion}
    (hannotations : Agree spell spell' (reverse.annotations.map (·.typeName)))
    (hreturn : spell reverse.returnType = spell' reverse.returnType)
    (htypes : ∀ binding ∈ reverse.bindings,
      Agree spell spell' (mentionsOfType binding.target.type))
    (h : ∀ binding ∈ reverse.bindings, Agree spell spell' (spelledNames binding.conversion)) :
    reverseConversionLines spell reverse = reverseConversionLines spell' reverse := by
  have hbindings := List.flatMap_congr fun binding hbinding =>
    bindingLines_congr (htypes binding hbinding) (h binding hbinding) reverse.name
  simp only [reverseConversionLines, annotationLines_congr hannotations, hreturn, hbindings]

theorem getterLines_congr {getter : Getter}
    (htype : Agree spell spell' (mentionsOfType getter.returnType))
    (hannotations : Agree spell spell' (getter.annotations.map (·.typeName))) :
    getterLines spell getter = getterLines spell' getter := by
  rw [getterLines, getterLines, annotationLines_congr hannotations, typeName_congr htype]

/-! ## The generated class -/

theorem fieldLines_congr {fields : List Variable}
    (h : ∀ field ∈ fields, Agree spell spell' (mentionsOfType field.type)) :
    (fields.map fun field =>
      ["private " ++ typeName spell field.type ++ " " ++ field.name ++ ";"]) =
      fields.map fun field =>
        ["private " ++ typeName spell' field.type ++ " " ++ field.name ++ ";"] := by
  refine List.map_congr_left fun field hfield => ?_
  rw [typeName_congr (h field hfield)]

theorem parameterNames_congr {parameters : List Variable}
    (h : ∀ parameter ∈ parameters, Agree spell spell' (mentionsOfType parameter.type)) :
    (parameters.map fun p => typeName spell p.type ++ " " ++ p.name) =
      parameters.map fun p => typeName spell' p.type ++ " " ++ p.name := by
  refine List.map_congr_left fun parameter hparameter => ?_
  rw [typeName_congr (h parameter hparameter)]

/-- Two spellings that agree on what a generated class mentions write its lines alike. -/
theorem wrapperLines_congr {naming : Naming} {value : ValueClass} {generated : GeneratedClass}
    {converted : List ConvertedProperty} (hassembled : generated.Assembled naming value converted)
    (h : Agree spell spell' (mentions generated)) :
    wrapperLines spell generated.wrapper generated.shadow =
      wrapperLines spell' generated.wrapper generated.shadow := by
  simp only [mentions, annotationsOf, List.map_append, List.map_flatMap, agree_append,
    agree_flatMap, agree_cons] at h
  obtain ⟨⟨⟨⟨⟨hparameters, hfields⟩, hparameter⟩, hbindings⟩, hreturn, -⟩,
    ⟨⟨hclass, hempty⟩, hreverse⟩, hannotations⟩ := h
  -- The lists of the generated class are made from one list of converted properties.
  have hfield : ∀ c ∈ converted, Agree spell spell' (mentionsOfType c.fieldType) := by
    intro c hc
    refine hfields c.field ?_
    rw [hassembled.fields]
    exact List.mem_map_of_mem hc
  have hbinding : ∀ c ∈ converted, Agree spell spell' (mentionsOfBinding c.binding) := by
    intro c hc
    refine hbindings c.binding ?_
    rw [hassembled.bindings]
    exact List.mem_map_of_mem hc
  have hconversion : ∀ c ∈ converted, Agree spell spell' (spelledNames c.conversion) := fun c hc =>
    agree_spelledNames (hassembled.crosses c hc) (hfield c hc) (hbinding c hc)
  have hforward : ∀ name, forwardConstructorLines spell name generated.shadow.forwardConstructor =
      forwardConstructorLines spell' name generated.shadow.forwardConstructor := by
    refine forwardConstructorLines_congr hparameter ?_
    rw [hassembled.assignments, List.forall_mem_map]
    exact hconversion
  have hback : reverseConversionLines spell generated.shadow.reverseConversion =
      reverseConversionLines spell' generated.shadow.reverseConversion := by
    refine reverseConversionLines_congr hreverse hreturn
      (fun binding hbinding => (agree_append.1 (hbindings binding hbinding)).1) ?_
    rw [hassembled.bindings, List.forall_mem_map]
    exact hconversion
  have hgetters : generated.shadow.getters.map (getterLines spell) =
      generated.shadow.getters.map (getterLines spell') := by
    refine List.map_congr_left fun getter hgetter => ?_
    refine getterLines_congr ?_ (hannotations getter hgetter)
    rw [hassembled.getters] at hgetter
    obtain ⟨c, hc, rfl⟩ := List.mem_map.1 hgetter
    exact hfield c hc
  simp only [wrapperLines, shadowLines, parameterNames_congr hparameters, fieldLines_congr hfields,
    annotationLines_congr hclass, annotationLines_congr hempty, hforward, hback, hgetters]

end

/-- Only the spellings of the classes that a generated class mentions are used to write it, and each
of these classes that is not visible without an import is imported through its outermost class or
written in full. -/
theorem writes_only_mentions {naming : Naming} {value : ValueClass} {generated : GeneratedClass}
    (h : GeneratedClass.ofValue naming value = .ok generated) :
    (∀ spell spell' : QualifiedName → String,
      (∀ name ∈ mentions generated, spell name = spell' name) →
      wrapperLines spell generated.wrapper generated.shadow =
        wrapperLines spell' generated.wrapper generated.shadow) ∧
    ∀ name ∈ mentions generated,
      Scope.isImplicit generated.wrapper.name.package name = false →
      name.topLevel.display ∈ (scopeOf generated).imports ∨
        (scopeOf generated).spell name = name.display := by
  obtain ⟨converted, hassembled⟩ := GeneratedClass.exists_assembled h
  refine ⟨fun _ _ hagree => wrapperLines_congr hassembled hagree, fun name _ hvisible => ?_⟩
  by_cases howns : Owns generated.wrapper.name.package generated.wrapper.name (mentions generated)
      name.topLevel
  · exact .inl ((Scope.mem_imports_iff rfl).2 ⟨_, howns, hvisible, rfl⟩)
  · exact .inr (Scope.spell_of_not_owns howns)

/-- An order of a user with tags, and with the parts by their number. -/
def mixedOrder : ValueClass where
  name := .ofClass "com.example" "Order"
  schema :=
    { properties := [
        ⟨"id", .primitive (.unboxed .int), none, [.bare (.ofDotted Annotations.exclude)]⟩,
        ⟨"user", .valueRef (.ofClass "com.other" "User"), none, []⟩,
        ⟨"tags", .collection .list (.valueRef (.ofClass "com.example" "Tag")), none, []⟩,
        ⟨"parts",
          .keyed .map (.primitive (.unboxed .long)) (.valueRef (.ofClass "com.example" "List")),
          none, []⟩]
      spellable := by decide +kernel
      distinct := by decide }

/-- The order is written alike by its names in full and by a spelling that knows only what the order
mentions. Its lists have to be written in full, because the parts own the simple name. -/
theorem writes_only_mentions_mixedOrder :
    ∃ generated, GeneratedClass.ofValue {} mixedOrder = .ok generated ∧
      wrapperLines QualifiedName.display generated.wrapper generated.shadow =
        wrapperLines (fun name => if name ∈ mentions generated then name.display else "?")
          generated.wrapper generated.shadow ∧
      (QualifiedName.ofClass "java.util" "List").display ∉ (scopeOf generated).imports ∧
      (scopeOf generated).spell (.ofClass "java.util" "List") = "java.util.List" := by
  have hgenerated : (GeneratedClass.ofValue {} mixedOrder).toOption.map (fun generated =>
      (decide (QualifiedName.ofClass "java.util" "List" ∈ mentions generated),
        generated.wrapper.name.package, (scopeOf generated).imports)) =
      some (true, "com.example", ["com.google.firebase.database.Exclude",
        "com.other.AutoValue_User", "com.other.User", "java.util.ArrayList",
        "java.util.LinkedHashMap", "java.util.Map"]) := by
    decide +kernel
  obtain ⟨generated, hgenerated, hfacts⟩ := Option.map_eq_some_iff.1 hgenerated
  obtain ⟨hmentioned, hpackage, himports⟩ := by simpa using hfacts
  have hvalue := toOption_eq_some.1 hgenerated
  obtain ⟨hwrite, hsafe⟩ := writes_only_mentions hvalue
  have hnotImported :
      (QualifiedName.ofClass "java.util" "List").display ∉ (scopeOf generated).imports := by
    rw [himports]
    decide
  refine ⟨generated, hvalue, hwrite _ _ fun name hname => (if_pos hname).symm, hnotImported, ?_⟩
  exact (hsafe _ hmentioned (by rw [hpackage]; decide)).resolve_left hnotImported

end ValueShadow.Java
