import ValueShadow.Files.Output
import ValueShadow.Proofs.Json.Printer
import ValueShadow.Proofs.PropertyType.ClassNames
import ValueShadow.Proofs.ShadowClass.Obstacles

/-!
# Nothing is lost in JSON

Class names are written as their displays, from which only names that are read back can be told.
Everything else is kept: the tree of a generated class is that of no other one, as long as all class
names in both are read back (`dump_loses_nothing`). Each part of it has a lemma of this form
(`TellsApart`), from the types up: a tag or a set of members tells the alternatives of a type
(`tellsApart_ofType`) and of a conversion (`tellsApart_ofConversion`), and in a list the items are
told apart one by one (`TellsApart.array`).
-/

namespace ValueShadow

/-! ## Class names -/

/-- The class name in an annotation. -/
def AnnotationUse.classNames (use : AnnotationUse) : List QualifiedName :=
  [use.typeName]

/-- The class names in the type of a variable. -/
def Variable.classNames (v : Variable) : List QualifiedName :=
  v.type.classNames

/-- The class names in a conversion. -/
def Conversion.classNames : Conversion → List QualifiedName
  | .copy => []
  | .nested value shadow | .nestedList value shadow _ | .nestedMap _ value shadow _ =>
    [value, shadow]

/-- The class names in an assignment. -/
def FieldAssignment.classNames (assignment : FieldAssignment) : List QualifiedName :=
  assignment.conversion.classNames

/-- The class names in a binding. -/
def ReverseBinding.classNames (binding : ReverseBinding) : List QualifiedName :=
  binding.target.classNames ++ binding.conversion.classNames

/-- The class names in a getter. -/
def Getter.classNames (getter : Getter) : List QualifiedName :=
  getter.returnType.classNames ++ getter.annotations.flatMap AnnotationUse.classNames

/-- The class names in a forward constructor. -/
def ForwardConstructor.classNames (forward : ForwardConstructor) : List QualifiedName :=
  forward.parameter.classNames ++ forward.assignments.flatMap FieldAssignment.classNames

/-- The class names in a reverse conversion. -/
def ReverseConversion.classNames (reverse : ReverseConversion) : List QualifiedName :=
  reverse.returnType :: (reverse.annotations.flatMap AnnotationUse.classNames ++
    reverse.bindings.flatMap ReverseBinding.classNames)

/-- The class names in a shadow class. -/
def ShadowClass.classNames (shadow : ShadowClass) : List QualifiedName :=
  shadow.name :: shadow.source ::
    (shadow.annotations.flatMap AnnotationUse.classNames ++
      shadow.fields.flatMap Variable.classNames ++
      shadow.emptyConstructor.flatMap AnnotationUse.classNames ++
      shadow.forwardConstructor.classNames ++ shadow.reverseConversion.classNames ++
      shadow.getters.flatMap Getter.classNames)

/-- The class names in a wrapper class. -/
def WrapperClass.classNames (wrapper : WrapperClass) : List QualifiedName :=
  wrapper.name :: wrapper.parameters.flatMap Variable.classNames

/-- All class names in what is generated for a value class. -/
def GeneratedClass.classNames (generated : GeneratedClass) : List QualifiedName :=
  generated.valueClass ::
    (generated.wrapper.classNames ++ generated.shadow.classNames ++ generated.references)

namespace Json

/-- Values of which all class names are read back have different trees if they are different. -/
def TellsApart {α : Type} (encode : α → Json) (names : α → List QualifiedName) : Prop :=
  ∀ ⦃a b : α⦄, AllReadBack (names a) → AllReadBack (names b) → encode a = encode b → a = b

/-- The items of an array are told apart if each of them is. -/
theorem TellsApart.array {α : Type} {encode : α → Json} {names : α → List QualifiedName}
    (h : TellsApart encode names) :
    TellsApart (fun items : List α => .array (items.map encode)) (·.flatMap names) := by
  intro items others hitems hothers hsame
  rw [array.injEq] at hsame
  induction items generalizing others with
  | nil => exact (List.map_eq_nil_iff.1 hsame.symm).symm
  | cons item items ih =>
    obtain ⟨other, others, rfl, hitem, hrest⟩ := List.map_eq_cons_iff.1 hsame.symm
    simp only [List.flatMap_cons, allReadBack_append] at hitems hothers
    rw [h hitems.1 hothers.1 hitem.symm, ih hitems.2 hothers.2 hrest.symm]

theorem ofName_inj {name other : QualifiedName} (hname : name.ReadsBack)
    (hother : other.ReadsBack) : ofName name = ofName other ↔ name = other := by
  rw [ofName, ofName, string.injEq, hname.display_inj hother]

theorem tellsApart_ofName : TellsApart ofName fun name => [name] := by
  intro name other hname hother
  exact (ofName_inj (allReadBack_cons.1 hname).1 (allReadBack_cons.1 hother).1).1

/-- Values are tagged alike exactly if they and their tags are the same. -/
theorem tagged_inj {tag tag' : String} {value value' : Json} :
    tagged tag value = tagged tag' value' ↔ tag = tag' ∧ value = value' := by
  simp [tagged]

/-- Objects whose first members have one name are the same exactly if the values of these are, and
the other members. -/
theorem object_cons_inj {name : String} {value value' : Json}
    {members members' : List (String × Json)} :
    object ((name, value) :: members) = object ((name, value') :: members') ↔
      value = value' ∧ object members = object members' := by
  simp

/-! ## Types -/

theorem keyword_inj {kind kind' : PrimitiveKind} : kind.keyword = kind'.keyword ↔ kind = kind' := by
  cases kind <;> cases kind' <;> decide

theorem ofPrimitive_inj {simple simple' : Primitive} :
    ofPrimitive simple = ofPrimitive simple' ↔ simple = simple' := by
  cases simple with
  | unboxed kind => cases simple' <;> simp [ofPrimitive, tagged, keyword_inj]
  | boxed kind => cases simple' <;> simp [ofPrimitive, tagged, keyword_inj]
  | string => cases simple' <;> simp [ofPrimitive, tagged]

theorem ofCollectionKind_inj {kind kind' : CollectionKind} :
    ofCollectionKind kind = ofCollectionKind kind' ↔ kind = kind' := by
  cases kind <;> cases kind' <;> simp [ofCollectionKind]

/-- A type is not written like a key that is absent. -/
theorem ofType_ne_null (type : PropertyType) : ofType type ≠ .null := by
  cases type <;> simp [ofType, tagged]

mutual

theorem ofType_inj : ∀ {type other : PropertyType}, AllReadBack type.classNames →
    AllReadBack other.classNames → ofType type = ofType other → type = other
  | .primitive simple, other, _, _, h => by
    cases other with
    | primitive simple' =>
      simp only [ofType, tagged_inj, ofPrimitive_inj, true_and] at h
      rw [h]
    | collection | keyed | valueRef | parameterized => simp [ofType, tagged] at h
  | .collection kind element, other, helement, hother, h => by
    cases other with
    | collection kind' element' =>
      rw [PropertyType.classNames] at helement hother
      simp only [ofType, tagged_inj, object_cons_inj, ofCollectionKind_inj, true_and, and_true] at h
      rw [h.1, ofType_inj helement hother h.2]
    | keyed kind' key' element' => simp [ofType, tagged, (ofType_ne_null key').symm] at h
    | primitive | valueRef | parameterized => simp [ofType, tagged] at h
  | .keyed kind key element, other, hnames, hother, h => by
    cases other with
    | keyed kind' key' element' =>
      rw [PropertyType.classNames, allReadBack_append] at hnames hother
      simp only [ofType, tagged_inj, object_cons_inj, ofCollectionKind_inj, true_and, and_true] at h
      rw [h.1, ofType_inj hnames.1 hother.1 h.2.1, ofType_inj hnames.2 hother.2 h.2.2]
    | collection => simp [ofType, tagged, ofType_ne_null key] at h
    | primitive | valueRef | parameterized => simp [ofType, tagged] at h
  | .valueRef name, other, hname, hother, h => by
    cases other with
    | valueRef name' =>
      rw [ofType, ofType, tagged_inj] at h
      rw [tellsApart_ofName hname hother h.2]
    | primitive | collection | keyed | parameterized => simp [ofType, tagged] at h
  | .parameterized raw arguments, other, hnames, hother, h => by
    cases other with
    | parameterized raw' arguments' =>
      rw [PropertyType.classNames, allReadBack_cons] at hnames hother
      simp only [ofType, tagged_inj, object_cons_inj, array.injEq, ofName_inj hnames.1 hother.1,
        true_and, and_true] at h
      rw [h.1, ofTypes_inj hnames.2 hother.2 h.2]
    | primitive | collection | keyed | valueRef => simp [ofType, tagged] at h

theorem ofTypes_inj : ∀ {types others : List PropertyType},
    AllReadBack (PropertyType.classNamesOfAll types) →
    AllReadBack (PropertyType.classNamesOfAll others) → ofTypes types = ofTypes others →
    types = others
  | [], [], _, _, _ => rfl
  | [], _ :: _, _, _, h | _ :: _, [], _, _, h => by
    rw [ofTypes, ofTypes] at h
    cases h
  | type :: types, other :: others, htypes, hothers, h => by
    rw [PropertyType.classNamesOfAll, allReadBack_append] at htypes hothers
    rw [ofTypes, ofTypes, List.cons.injEq] at h
    rw [ofType_inj htypes.1 hothers.1 h.1, ofTypes_inj htypes.2 hothers.2 h.2]

end

theorem tellsApart_ofType : TellsApart ofType PropertyType.classNames :=
  fun _ _ => ofType_inj

/-! ## Conversions and annotations -/

theorem tellsApart_ofConversion : TellsApart ofConversion Conversion.classNames := by
  intro conversion other hnames hother h
  cases conversion with
  | copy =>
    cases other with
    | copy => rfl
    | nested | nestedList | nestedMap => simp [ofConversion] at h
  | nested value shadow =>
    cases other with
    | nested value' shadow' =>
      simp only [Conversion.classNames, allReadBack_cons] at hnames hother
      simp only [ofConversion, object_cons_inj, ofName_inj hnames.1 hother.1,
        ofName_inj hnames.2.1 hother.2.1, true_and, and_true] at h
      rw [h.1, h.2]
    | copy | nestedList | nestedMap => simp [ofConversion] at h
  | nestedList value shadow item =>
    cases other with
    | nestedList value' shadow' item' =>
      simp only [Conversion.classNames, allReadBack_cons] at hnames hother
      simp only [ofConversion, object_cons_inj, string.injEq, ofName_inj hnames.1 hother.1,
        ofName_inj hnames.2.1 hother.2.1, true_and, and_true] at h
      rw [h.1, h.2.1, h.2.2]
    | copy | nested | nestedMap => simp [ofConversion] at h
  | nestedMap key value shadow entry =>
    cases other with
    | nestedMap key' value' shadow' entry' =>
      simp only [Conversion.classNames, allReadBack_cons] at hnames hother
      simp only [ofConversion, object_cons_inj, string.injEq, ofPrimitive_inj,
        ofName_inj hnames.1 hother.1, ofName_inj hnames.2.1 hother.2.1, true_and, and_true] at h
      rw [h.1, h.2.1, h.2.2.1, h.2.2.2]
    | copy | nested | nestedList => simp [ofConversion] at h

theorem tellsApart_ofAnnotationUse : TellsApart ofAnnotationUse AnnotationUse.classNames := by
  rintro ⟨typeName, members⟩ ⟨typeName', members'⟩ hname hname' h
  simp only [ofAnnotationUse, object_cons_inj, array.injEq, and_true] at h
  obtain ⟨htype, hmembers⟩ := h
  obtain rfl : typeName = typeName' := tellsApart_ofName hname hname' htype
  rw [List.map_inj_right] at hmembers
  · rw [hmembers]
  · rintro ⟨name, value⟩ ⟨name', value'⟩ hmember
    simpa using hmember

theorem tellsApart_ofAnnotations :
    TellsApart ofAnnotations (·.flatMap AnnotationUse.classNames) :=
  tellsApart_ofAnnotationUse.array

/-! ## Members of the classes -/

theorem tellsApart_ofVariable : TellsApart ofVariable Variable.classNames := by
  rintro ⟨name, type⟩ ⟨name', type'⟩ htype htype' h
  simp only [ofVariable, object_cons_inj, string.injEq, and_true] at h
  obtain ⟨rfl, hsame⟩ := h
  obtain rfl : type = type' := tellsApart_ofType htype htype' hsame
  rfl

theorem tellsApart_ofAssignment : TellsApart ofAssignment FieldAssignment.classNames := by
  rintro ⟨field, accessor, conversion⟩ ⟨field', accessor', conversion'⟩ hnames hnames' h
  simp only [ofAssignment, object_cons_inj, string.injEq, and_true] at h
  obtain ⟨rfl, rfl, hconversion⟩ := h
  obtain rfl : conversion = conversion' := tellsApart_ofConversion hnames hnames' hconversion
  rfl

theorem tellsApart_ofBinding : TellsApart ofBinding ReverseBinding.classNames := by
  rintro ⟨⟨name, type⟩, field, conversion⟩ ⟨⟨name', type'⟩, field', conversion'⟩ hnames hnames' h
  simp only [ReverseBinding.classNames, allReadBack_append] at hnames hnames'
  simp only [ofBinding, object_cons_inj, string.injEq, and_true] at h
  obtain ⟨rfl, htype, rfl, hconversion⟩ := h
  obtain rfl : type = type' := tellsApart_ofType hnames.1 hnames'.1 htype
  obtain rfl : conversion = conversion' := tellsApart_ofConversion hnames.2 hnames'.2 hconversion
  rfl

theorem tellsApart_ofGetter : TellsApart ofGetter Getter.classNames := by
  rintro ⟨name, field, type, annotations⟩ ⟨name', field', type', annotations'⟩ hnames hnames' h
  simp only [Getter.classNames, allReadBack_append] at hnames hnames'
  simp only [ofGetter, object_cons_inj, string.injEq, and_true] at h
  obtain ⟨rfl, rfl, htype, hannotations⟩ := h
  obtain rfl : type = type' := tellsApart_ofType hnames.1 hnames'.1 htype
  obtain rfl : annotations = annotations' :=
    tellsApart_ofAnnotations hnames.2 hnames'.2 hannotations
  rfl

theorem tellsApart_ofForwardConstructor :
    TellsApart ofForwardConstructor ForwardConstructor.classNames := by
  rintro ⟨parameter, assignments⟩ ⟨parameter', assignments'⟩ hnames hnames' h
  simp only [ForwardConstructor.classNames, allReadBack_append] at hnames hnames'
  simp only [ofForwardConstructor, object_cons_inj, and_true] at h
  obtain ⟨hparameter, hassignments⟩ := h
  obtain rfl : parameter = parameter' := tellsApart_ofVariable hnames.1 hnames'.1 hparameter
  obtain rfl : assignments = assignments' :=
    tellsApart_ofAssignment.array hnames.2 hnames'.2 hassignments
  rfl

theorem ofStrings_inj {texts others : List String} :
    ofStrings texts = ofStrings others ↔ texts = others := by
  rw [ofStrings, ofStrings, array.injEq, List.map_inj_right fun _ _ => string.inj]

theorem tellsApart_ofReverseConversion :
    TellsApart ofReverseConversion ReverseConversion.classNames := by
  rintro ⟨name, annotations, returnType, bindings, arguments⟩
    ⟨name', annotations', returnType', bindings', arguments'⟩ hnames hnames' h
  simp only [ReverseConversion.classNames, allReadBack_cons, allReadBack_append] at hnames hnames'
  simp only [ofReverseConversion, object_cons_inj, string.injEq, ofStrings_inj,
    ofName_inj hnames.1 hnames'.1, and_true] at h
  obtain ⟨rfl, hannotations, rfl, hbindings, rfl⟩ := h
  obtain rfl : annotations = annotations' :=
    tellsApart_ofAnnotations hnames.2.1 hnames'.2.1 hannotations
  obtain rfl : bindings = bindings' :=
    tellsApart_ofBinding.array hnames.2.2 hnames'.2.2 hbindings
  rfl

/-! ## Classes -/

theorem tellsApart_ofShadowClass : TellsApart ofShadowClass ShadowClass.classNames := by
  rintro ⟨name, source, annotations, fields, emptyConstructor, forward, reverse, getters⟩
    ⟨name', source', annotations', fields', emptyConstructor', forward', reverse', getters'⟩
    hnames hnames' h
  simp only [ShadowClass.classNames, allReadBack_cons, allReadBack_append, and_assoc]
    at hnames hnames'
  obtain ⟨hname, hsource, hannotations, hfields, hempty, hforward, hreverse, hgetters⟩ := hnames
  obtain ⟨hname', hsource', hannotations', hfields', hempty', hforward', hreverse', hgetters'⟩ :=
    hnames'
  simp only [ofShadowClass, object_cons_inj, ofName_inj hname hname', ofName_inj hsource hsource',
    and_true] at h
  obtain ⟨rfl, rfl, heannotations, hefields, heempty, heforward, hereverse, hegetters⟩ := h
  obtain rfl : annotations = annotations' :=
    tellsApart_ofAnnotations hannotations hannotations' heannotations
  obtain rfl : fields = fields' := tellsApart_ofVariable.array hfields hfields' hefields
  obtain rfl : emptyConstructor = emptyConstructor' :=
    tellsApart_ofAnnotations hempty hempty' heempty
  obtain rfl : forward = forward' := tellsApart_ofForwardConstructor hforward hforward' heforward
  obtain rfl : reverse = reverse' := tellsApart_ofReverseConversion hreverse hreverse' hereverse
  obtain rfl : getters = getters' := tellsApart_ofGetter.array hgetters hgetters' hegetters
  rfl

theorem tellsApart_ofWrapperClass : TellsApart ofWrapperClass WrapperClass.classNames := by
  rintro ⟨name, superclass, isFinal, parameters⟩ ⟨name', superclass', isFinal', parameters'⟩
    hnames hnames' h
  simp only [WrapperClass.classNames, allReadBack_cons] at hnames hnames'
  simp only [ofWrapperClass, object_cons_inj, string.injEq, bool.injEq,
    ofName_inj hnames.1 hnames'.1, and_true] at h
  obtain ⟨rfl, rfl, rfl, hparameters⟩ := h
  obtain rfl : parameters = parameters' :=
    tellsApart_ofVariable.array hnames.2 hnames'.2 hparameters
  rfl

theorem tellsApart_ofGeneratedClass : TellsApart ofGeneratedClass GeneratedClass.classNames := by
  rintro ⟨valueClass, wrapper, shadow, references⟩ ⟨valueClass', wrapper', shadow', references'⟩
    hnames hnames' h
  simp only [GeneratedClass.classNames, allReadBack_cons, allReadBack_append, and_assoc]
    at hnames hnames'
  obtain ⟨hvalue, hwrapper, hshadow, hreferences⟩ := hnames
  obtain ⟨hvalue', hwrapper', hshadow', hreferences'⟩ := hnames'
  simp only [ofGeneratedClass, object_cons_inj, ofName_inj hvalue hvalue', and_true] at h
  obtain ⟨rfl, hewrapper, heshadow, hereferences⟩ := h
  obtain rfl : wrapper = wrapper' := tellsApart_ofWrapperClass hwrapper hwrapper' hewrapper
  obtain rfl : shadow = shadow' := tellsApart_ofShadowClass hshadow hshadow' heshadow
  obtain rfl : references = references' :=
    tellsApart_ofName.array (by simpa using hreferences) (by simpa using hreferences') hereferences
  rfl

/-- Nothing is lost in JSON. If all class names in two generated classes are read back from their
displays, the classes have one tree, or one file, only if they are the same. -/
theorem dump_loses_nothing {generated other : GeneratedClass}
    (h : AllReadBack generated.classNames) (hother : AllReadBack other.classNames) :
    (ofGeneratedClass generated = ofGeneratedClass other ↔ generated = other) ∧
      (OutputFormat.json.render generated = OutputFormat.json.render other ↔
        generated = other) := by
  have htree : ofGeneratedClass generated = ofGeneratedClass other ↔ generated = other := by
    constructor
    · exact fun hsame => tellsApart_ofGeneratedClass h hother hsame
    · rintro rfl
      rfl
  exact ⟨htree, by rw [OutputFormat.render, OutputFormat.render, pretty_inj, htree]⟩

/-- A counter whose count cannot be absent. -/
def counter : ValueClass where
  name := .ofClass "com.example" "Counter"
  schema :=
    { properties := [⟨"count", .primitive (.unboxed .int), none, []⟩]
      spellable := by decide +kernel
      distinct := by decide }

/-- A counter whose count can be absent. -/
def optionalCounter : ValueClass where
  name := .ofClass "com.example" "Counter"
  schema :=
    { properties := [⟨"count", .primitive (.boxed .int), none, []⟩]
      spellable := by decide +kernel
      distinct := by decide }

/-- The two counters have different files: the type of the count is told from the class that boxes
it. -/
theorem dump_loses_nothing_counter :
    ∃ generated ∈ (uncatalogued.generate counter).toOption,
      ∃ other ∈ (uncatalogued.generate optionalCounter).toOption,
        AllReadBack generated.classNames ∧ AllReadBack other.classNames ∧
          OutputFormat.json.render generated ≠ OutputFormat.json.render other := by
  have hcounter : ∃ generated ∈ (uncatalogued.generate counter).toOption,
      AllReadBack generated.classNames ∧
        generated.shadow.fields.map (·.type.display) = ["int"] := by
    decide +kernel
  have hoptional : ∃ other ∈ (uncatalogued.generate optionalCounter).toOption,
      AllReadBack other.classNames ∧
        other.shadow.fields.map (·.type.display) = ["java.lang.Integer"] := by
    decide +kernel
  obtain ⟨generated, hgenerated, hnames, hint⟩ := hcounter
  obtain ⟨other, hother, hnames', hinteger⟩ := hoptional
  refine ⟨generated, hgenerated, other, hother, hnames, hnames', fun hsame => ?_⟩
  rw [(dump_loses_nothing hnames hnames').2.1 hsame, hinteger] at hint
  exact absurd hint (by decide)

end Json

end ValueShadow
