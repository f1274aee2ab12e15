import ValueShadow.Manifest.Decoding
import ValueShadow.Proofs.Manifest.Accounting
import ValueShadow.Proofs.Manifest.Entries
import ValueShadow.Proofs.PropertyType.ClassNames

/-!
# Names in a manifest

All names that come from a manifest are read back from their displays: those of its value classes
and annotations because they are read from texts (`Manifest.annotations_readBack`), and those in the
types of its properties because they are read in the package of a value class
(`ValueEntry.classNames_readBack`). Names that are read back are equal if their displays are, so a
reference is in the catalog exactly if its display is the name of an entry that is a value class
(`Manifest.find?_isSome_iff`).
-/

namespace ValueShadow

open Text

/-! ## Types -/

/-- The class names in the types of a value class that an entry describes are read back. -/
theorem ValueEntry.classNames_readBack {entry : ValueEntry} {value : ValueClass}
    (h : entry.toValueClass = .ok value) {property : Property}
    (hproperty : property ∈ value.schema.properties) : AllReadBack property.type.classNames := by
  obtain ⟨described, -, hdescribed⟩ := exists_mem_of_forall₂ (forall₂_toProperty h) hproperty
  obtain ⟨type, htype, rfl⟩ := PropertyEntry.toProperty_eq_ok.1 hdescribed
  exact PropertyType.classNames_readBack_of_parse (QualifiedName.readsAsPackage_ofDotted _) htype

namespace Manifest

/-! ## Annotations -/

section
variable {α : Type} {read : Toml.Value → Option α} {P : α → Prop}

/-- What holds of everything that is read of an item holds of all items that are read of an
array. -/
theorem forall_of_items? (hread : ∀ value a, read value = some a → P a) {value : Toml.Value}
    {results : List α} (h : items? read value = some results) : ∀ a ∈ results, P a := by
  cases value with
  | array items =>
    intro a ha
    obtain ⟨item, -, hitem⟩ := exists_mem_of_forall₂ (mapM_eq_some.1 h) ha
    exact hread item a hitem
  | string | integer | float | boolean | datetime | table => cases h

/-- What holds of everything that is read of an item holds of all items of a field that is empty
without a value. -/
theorem forall_of_standard_items? (hread : ∀ value a, read value = some a → P a)
    {field : Option Toml.Value} {results : List α}
    (h : standard [] (items? read) field = some results) : ∀ a ∈ results, P a := by
  cases field with
  | none =>
    cases h
    simp
  | some value => exact forall_of_items? hread h

end

/-- The types of all the annotations are read back. -/
def AnnotationsReadBack (annotations : List AnnotationUse) : Prop :=
  ∀ use ∈ annotations, use.typeName.ReadsBack

/-- The type of an annotation is read back. -/
theorem readsBack_of_annotationUse? (value : Toml.Value) (use : AnnotationUse)
    (h : annotationUse? value = some use) : use.typeName.ReadsBack := by
  cases value with
  | string name =>
    cases h
    exact QualifiedName.readsBack_ofDotted name
  | table entries =>
    obtain ⟨name, -, h⟩ := Option.bind_eq_some_iff.1 h
    obtain ⟨members, -, h⟩ := Option.bind_eq_some_iff.1 h
    cases h
    exact QualifiedName.readsBack_ofDotted name
  | integer | float | boolean | datetime | array => cases h

/-- The types of the annotations of a property are read back. -/
theorem readBack_of_propertyEntry? (value : Toml.Value) (entry : PropertyEntry)
    (h : propertyEntry? value = some entry) : AnnotationsReadBack entry.annotations := by
  obtain ⟨fields, -, h⟩ := Option.bind_eq_some_iff.1 h
  split at h
  · simp only [Option.bind_eq_bind, Option.bind_eq_some_iff] at h
    obtain ⟨name, -, type, -, accessor, -, annotations, hannotations, h⟩ := h
    cases h
    exact forall_of_standard_items? readsBack_of_annotationUse? hannotations
  · cases h

/-- The types of the annotations of a value class and of its properties are read back. -/
theorem readBack_of_valueEntry? (value : Toml.Value) (entry : ValueEntry)
    (h : valueEntry? value = some entry) :
    AnnotationsReadBack entry.annotations ∧
      ∀ property ∈ entry.properties, AnnotationsReadBack property.annotations := by
  obtain ⟨fields, -, h⟩ := Option.bind_eq_some_iff.1 h
  split at h
  · simp only [Option.bind_eq_bind, Option.bind_eq_some_iff] at h
    obtain ⟨name, -, generatedName, -, superclassName, -, isFinal, -, annotations, hannotations,
      properties, hproperties, h⟩ := h
    cases h
    exact ⟨forall_of_standard_items? readsBack_of_annotationUse? hannotations,
      forall_of_standard_items? readBack_of_propertyEntry? hproperties⟩
  · cases h

/-- The types of all annotations in a manifest are read back. -/
theorem annotations_readBack {text : String} {manifest : Manifest}
    (h : Manifest.parse text = some manifest) {entry : ValueEntry}
    (hentry : entry ∈ manifest.values) :
    AnnotationsReadBack entry.annotations ∧
      ∀ property ∈ entry.properties, AnnotationsReadBack property.annotations := by
  obtain ⟨entries, -, h⟩ := Option.bind_eq_some_iff.1 h
  obtain ⟨settings, -, h⟩ := Option.bind_eq_some_iff.1 h
  obtain ⟨values, hvalues, h⟩ := Option.bind_eq_some_iff.1 h
  cases h
  exact forall_of_standard_items? readBack_of_valueEntry? hvalues entry hentry

/-! ## References -/

/-- A value class of the catalog is one that an entry describes. -/
theorem mem_catalog_iff {manifest : Manifest} {value : ValueClass} :
    value ∈ manifest.session.catalog ↔
      ∃ entry ∈ manifest.values, entry.toValueClass = .ok value := by
  rw [session, catalog, Catalog.values_ofEntries, List.mem_filterMap]
  simp only [toOption_eq_some]

/-- A name that is read back is found in the catalog exactly if its display is the name of an entry
that is a value class. -/
theorem find?_isSome_iff {manifest : Manifest} {name : QualifiedName} (h : name.ReadsBack) :
    (manifest.session.find? name).isSome ↔
      ∃ entry ∈ manifest.values, (∃ value, entry.toValueClass = .ok value) ∧
        entry.name = name.display := by
  rw [Session.find?_isSome, List.mem_map]
  constructor
  · rintro ⟨value, hvalue, rfl⟩
    obtain ⟨entry, hentry, hbuilt⟩ := mem_catalog_iff.1 hvalue
    obtain ⟨hname, -⟩ := ValueEntry.toValueClass_eq_ok hbuilt
    exact ⟨entry, hentry, ⟨value, hbuilt⟩, by rw [hname, QualifiedName.display_ofDotted]⟩
  · rintro ⟨entry, hentry, ⟨value, hbuilt⟩, hdisplay⟩
    obtain ⟨hname, -⟩ := ValueEntry.toValueClass_eq_ok hbuilt
    exact ⟨value, mem_catalog_iff.2 ⟨entry, hentry, hbuilt⟩, by rw [hname, hdisplay, h]⟩

/-- Dotted names are read back. The display of what is read of a text is the text, so different
texts are read as different names, and whether an annotation that was read has a name is a
comparison of texts. A name is read back from its display exactly if its package is empty or all
segments of the package start with a small letter, no dot is in a simple name, and there is one
simple name or the first one does not start with a small letter. The class names in a type that is
read in the package of a name that was read are such names, whether its entry describes a value
class or not. So are the names of the value classes of a catalog, the class names in the types of
their properties and the types of the annotations in a manifest, and the reference of a property is
found in the catalog exactly if its display is the name of an entry that is a value class. -/
theorem names_read_back :
    (∀ text, (QualifiedName.ofDotted text).display = text) ∧
    Function.Injective QualifiedName.ofDotted ∧
    (∀ text name members,
      (AnnotationUse.mk (.ofDotted text) members).isNamed name = true ↔ text = name) ∧
    (∀ name : QualifiedName, .ofDotted name.display = name ↔
      (name.package = "" ∨
        ∀ segment ∈ segments '.' name.package, QualifiedName.isPackageSegment segment = true) ∧
      (∀ simpleName ∈ name.simpleNames, '.' ∉ simpleName.toList) ∧
      (name.simpleNames.length = 1 ∨
        QualifiedName.isPackageSegment (name.simpleNames.head name.nonempty) = false)) ∧
    (∀ name text type, PropertyType.parse (QualifiedName.ofDotted name).package text = .ok type →
      AllReadBack type.classNames) ∧
    (∀ manifest : Manifest, ∀ value ∈ manifest.session.catalog, value.name.ReadsBack ∧
      ∀ property ∈ value.schema.properties,
        AllReadBack property.type.classNames ∧
        ∀ reference, property.type.heldValueClass? = some reference →
          ((manifest.session.find? reference).isSome ↔
            ∃ entry ∈ manifest.values, (∃ value, entry.toValueClass = .ok value) ∧
              entry.name = reference.display)) ∧
    ∀ text manifest, Manifest.parse text = some manifest → ∀ entry ∈ manifest.values,
      AnnotationsReadBack entry.annotations ∧
        ∀ property ∈ entry.properties, AnnotationsReadBack property.annotations := by
  refine ⟨QualifiedName.display_ofDotted, fun _ _ => QualifiedName.ofDotted_inj.1,
    fun text name members => ?_, fun name => ?_,
    fun name _ _ => PropertyType.classNames_readBack_of_parse
      (QualifiedName.readsAsPackage_ofDotted name),
    fun manifest value hvalue => ?_,
    fun text manifest h entry hentry => annotations_readBack h hentry⟩
  · rw [AnnotationUse.isNamed, QualifiedName.display_ofDotted, beq_iff_eq]
  · have hiff : .ofDotted name.display = name ↔ _ := QualifiedName.readsBack_iff_readsAsPackage
    rw [hiff, QualifiedName.StartsClass, or_comm (a := _ = false)]
    rfl
  · obtain ⟨entry, hentry, hbuilt⟩ := mem_catalog_iff.1 hvalue
    refine ⟨?_, fun property hproperty => ?_⟩
    · rw [(ValueEntry.toValueClass_eq_ok hbuilt).1]
      exact QualifiedName.readsBack_ofDotted entry.name
    · have hreads := ValueEntry.classNames_readBack hbuilt hproperty
      refine ⟨hreads, fun reference hreference => find?_isSome_iff (hreads reference ?_)⟩
      exact PropertyType.mem_classNames_of_heldValueClass? hreference

/-- An order that refers to its lines and to a class that no entry describes. -/
def orders : Manifest :=
  ⟨{}, [
    ⟨"shop.Order", none, none, true, [],
      [⟨"lines", "List<Line>", none, []⟩, ⟨"payer", "Customer.Account", none, []⟩]⟩,
    ⟨"shop.Line", none, none, true, [], []⟩]⟩

/-- The lines of the order are found by the text of their name, and its payer is not. A class that
starts with a small letter in a package that starts with a capital is not read back. -/
theorem names_read_back_orders :
    (orders.session.find? (.ofClass "shop" "Line")).isSome ∧
      orders.session.find? ((QualifiedName.ofClass "shop" "Customer").nested "Account") = none ∧
      QualifiedName.ofDotted (QualifiedName.ofClass "Shop" "order").display ≠
        .ofClass "Shop" "order" := by
  obtain ⟨-, -, -, hiff, -, horders, -⟩ := names_read_back
  refine ⟨?_, ?_, fun h => ?_⟩
  · have hlines : ∃ value ∈ orders.session.catalog, ∃ property ∈ value.schema.properties,
        property.type.heldValueClass? = some (.ofClass "shop" "Line") := by
      decide +kernel
    obtain ⟨value, hvalue, property, hproperty, hreference⟩ := hlines
    refine (((horders orders value hvalue).2 property hproperty).2 _ hreference).2 ?_
    exact ⟨_, .tail _ (.head _), ⟨_, rfl⟩, by decide +kernel⟩
  · have hpayer : ∃ value ∈ orders.session.catalog, ∃ property ∈ value.schema.properties,
        property.type.heldValueClass? =
          some ((QualifiedName.ofClass "shop" "Customer").nested "Account") := by
      decide +kernel
    obtain ⟨value, hvalue, property, hproperty, hreference⟩ := hpayer
    have hfound := ((horders orders value hvalue).2 property hproperty).2 _ hreference
    rw [← Option.not_isSome_iff_eq_none, hfound]
    rintro ⟨entry, hentry, -, hname⟩
    revert entry
    decide +kernel
  · obtain ⟨hpackage, -⟩ := (hiff _).1 h
    revert hpackage
    decide +kernel

end Manifest

end ValueShadow
