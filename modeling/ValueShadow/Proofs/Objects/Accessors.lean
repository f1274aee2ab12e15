import ValueShadow.Proofs.Objects.RoundTrip
import ValueShadow.Proofs.Schema

/-!
# Properties that share an accessor

The forward constructor reads each property through its accessor. A schema keeps the names of its
properties apart and not their accessors, so two properties may be read through one method: one that
names the accessor of another one, or its name (`not_accessors_apart_readTwice`). Where no property
does (`AccessorsApart`), the accessors are distinct. Nothing less will do for objects to come back
unchanged (`Session.forall_comesBack_iff`): an argument that no accessor reads is lost, and every
property has two values at least (`Session.exists_ne_initial`), so two objects become the same one.
-/

namespace ValueShadow

/-- No accessor that a property names is the accessor of another property. -/
def AccessorsApart (properties : List Property) : Prop :=
  ∀ property ∈ properties, ∀ accessor ∈ property.ownAccessor,
    ∀ other ∈ properties, other.accessor = accessor → other.name = property.name

/-- A property that names an accessor is read through it. -/
theorem Property.accessor_of_own {property : Property} {accessor : String}
    (h : accessor ∈ property.ownAccessor) : property.accessor = accessor := by
  rw [Property.accessor, h, Option.getD_some]

/-- Without accessors of their own, two properties that are read through one method have one
name. -/
theorem Property.name_eq_of_accessor_eq {property other : Property}
    (hproperty : property.ownAccessor = none) (hother : other.ownAccessor = none)
    (h : property.accessor = other.accessor) : property.name = other.name := by
  rwa [Property.accessor, Property.accessor, hproperty, hother] at h

/-- The accessors of a schema are distinct exactly if those that its properties name are none of
another property. -/
theorem Schema.nodup_accessors_iff (schema : Schema) :
    (schema.properties.map Property.accessor).Nodup ↔ AccessorsApart schema.properties := by
  constructor
  · intro hdistinct property hproperty accessor hown other hother haccessor
    have hsame : other.accessor = property.accessor :=
      haccessor.trans (Property.accessor_of_own hown).symm
    rw [List.inj_on_of_nodup_map hdistinct hother hproperty hsame]
  · intro hapart
    refine List.Nodup.map_on (fun property hproperty other hother h => ?_) schema.distinct.of_map
    refine List.inj_on_of_nodup_map schema.distinct hproperty hother ?_
    cases hown : property.ownAccessor with
    | some accessor =>
      have hread := Property.accessor_of_own hown
      exact (hapart property hproperty accessor hown other hother (h.symm.trans hread)).symm
    | none =>
      cases hown' : other.ownAccessor with
      | some accessor =>
        have hread := Property.accessor_of_own hown'
        exact hapart other hother accessor hown' property hproperty (h.trans hread)
      | none => exact Property.name_eq_of_accessor_eq hown hown' h

/-- If each property is the first one that some accessor reads, the accessors are distinct. -/
theorem Schema.nodup_accessors_of_find? (schema : Schema)
    (h : ∀ property ∈ schema.properties, ∃ accessor,
      schema.properties.find? (fun other => other.accessor = accessor) = some property) :
    (schema.properties.map Property.accessor).Nodup := by
  have hfirst : ∀ property ∈ schema.properties, schema.properties.find?
      (fun other => other.accessor = property.accessor) = some property := by
    intro property hproperty
    obtain ⟨accessor, hfind⟩ := h property hproperty
    have haccessor : property.accessor = accessor := by simpa using List.find?_some hfind
    rwa [haccessor]
  refine List.Nodup.map_on (fun property hproperty other hother heq => ?_) schema.distinct.of_map
  have hfind := hfirst property hproperty
  rw [heq, hfirst other hother] at hfind
  exact (Option.some.inj hfind).symm

/-- The assignments of a shadow class read the accessors of the properties, in their order. -/
theorem ShadowClass.accessors_of_ofShaped {naming : Naming} {value : ValueClass}
    {shaped : List ShapedProperty} {shadow : ShadowClass}
    (hshaped : value.schema.shaped = .ok shaped)
    (hshadow : ShadowClass.ofShaped naming value shaped = .ok shadow) :
    shadow.forwardConstructor.assignments.map (·.accessor) =
      value.schema.properties.map Property.accessor := by
  obtain ⟨generated, hgenerated, rfl⟩ := GeneratedClass.exists_of_ofShaped hshaped hshadow
  obtain ⟨converted, hassembled⟩ := GeneratedClass.exists_assembled hgenerated
  rw [hassembled.assignments, ← hassembled.properties, List.map_map, List.map_map]
  rfl

/-! ## Two values of a type -/

/-- A value that every object may have: nothing, or a zero where something has to be. -/
def PropertyType.initial : PropertyType → Datum
  | .primitive (.unboxed _) => .scalar "0"
  | _ => .null

/-- The initial value, but for the property of that name, which has the other value. -/
def Property.initialBut (name : String) (other : Datum) (property : Property) : Datum :=
  if property.name = name then other else property.type.initial

/-- The object of the value class with an argument for each property. -/
def ValueClass.objectOf (value : ValueClass) (argument : Property → Datum) : Datum :=
  .object value.name (value.schema.properties.map argument)

/-- An accessor reads the argument of the first property that has it. -/
theorem ValueClass.read_map (value : ValueClass) (argument : Property → Datum) (accessor : String) :
    value.read (value.schema.properties.map argument) accessor =
      (value.schema.properties.find? fun property => property.accessor = accessor).map argument := by
  rw [ValueClass.read, List.zip_map', lookup_map]

/-- Arguments can be told apart only at properties that some accessor reads. -/
theorem ValueClass.read_congr (value : ValueClass) {argument argument' : Property → Datum}
    (hagree : ∀ property ∈ value.schema.properties,
      (∃ accessor, value.schema.properties.find? (fun other => other.accessor = accessor) =
        some property) → argument property = argument' property) (accessor : String) :
    value.read (value.schema.properties.map argument) accessor =
      value.read (value.schema.properties.map argument') accessor := by
  rw [value.read_map, value.read_map]
  refine Option.map_congr fun property hfind => ?_
  exact hagree property (List.mem_of_find?_eq_some hfind) ⟨accessor, hfind⟩

namespace Session

section
variable {session : Session} {value : ValueClass}

/-- The initial value is one of the type. -/
theorem holds_initial (type : PropertyType) : session.Holds type type.initial := by
  cases type with
  | primitive simple =>
    cases simple with
    | unboxed => exact .scalar
    | boxed | string => exact .absent (by simp)
  | collection | keyed | valueRef | parameterized => exact .absent (by simp)

/-- An object with an argument of its type for each property is one of the value class. -/
theorem holds_objectOf (hfind : session.find? value.name = some value)
    {argument : Property → Datum}
    (hargument : ∀ property ∈ value.schema.properties,
      session.Holds property.type (argument property)) :
    session.Holds (.valueRef value.name) (value.objectOf argument) := by
  refine .object hfind (by simp) fun pair hpair => ?_
  rw [← List.map_id' value.schema.properties, List.map_map, List.zip_map', List.mem_map] at hpair
  obtain ⟨property, hproperty, rfl⟩ := hpair
  exact hargument property hproperty

/-- A type that is converted has a value besides the initial one, if the value class that the
conversion goes through is known. -/
theorem exists_ne_initial {type : PropertyType} {conversion : Conversion}
    (hcrosses : type.Crosses session.settings.naming conversion)
    (hknown : ∀ name, conversion.valueClass? = some name → (session.find? name).isSome) :
    ∃ other, session.Holds type other ∧ other ≠ type.initial := by
  cases hcrosses with
  | copied hshape =>
    cases type with
    | primitive simple =>
      refine ⟨.scalar "1", .scalar, ?_⟩
      cases simple <;> simp [PropertyType.initial]
    | collection kind element =>
      cases kind with
      | list => exact ⟨.list [], .list rfl (by simp) (by simp), by simp [PropertyType.initial]⟩
      | map => cases hshape
    | keyed kind key element =>
      cases kind with
      | list => exact ⟨.list [], .list rfl (by simp) (by simp), by simp [PropertyType.initial]⟩
      | map => exact ⟨.map [], .map (by simp) (by simp), by simp [PropertyType.initial]⟩
    | valueRef | parameterized => cases hshape
  | @nested name =>
    obtain ⟨value, hfind⟩ := Option.isSome_iff_exists.1 (hknown name rfl)
    obtain ⟨-, rfl⟩ := mem_of_find? hfind
    refine ⟨value.objectOf fun property => property.type.initial, ?_, ?_⟩
    · exact holds_objectOf hfind fun property _ => holds_initial property.type
    · simp [ValueClass.objectOf, PropertyType.initial]
  | list | keyedList =>
    exact ⟨.list [], .list rfl (by simp) (by simp), by simp [PropertyType.initial]⟩
  | map => exact ⟨.map [], .map (by simp) (by simp), by simp [PropertyType.initial]⟩

/-! ## Objects that become the same object -/

/-- The object becomes an object of the shadow class that references to its value class spell, and
that becomes the same object again. -/
def ComesBack (session : Session) (valueClass : QualifiedName) (object : Datum) : Prop :=
  ∃ shadow result, session.settings.naming.shadowName valueClass = .ok shadow ∧
    session.RoundTrips shadow object result

/-- Objects that every accessor reads alike become the same object. -/
theorem construct_congr {shadow : QualifiedName} {arguments arguments' : List Datum}
    (hfind : session.find? value.name = some value)
    (hread : ∀ accessor, value.read arguments accessor = value.read arguments' accessor)
    {result : Datum}
    (h : session.construct shadow (.object value.name arguments) = some result) :
    session.construct shadow (.object value.name arguments') = some result := by
  obtain ⟨unit, known, set, hdenoted, hsource, hknown, hset, hresult⟩ :=
    construct_object_eq_some.1 h
  cases hknown.symm.trans hfind
  simp only [hread] at hset
  exact construct_object_eq_some.2 ⟨unit, value, set, hdenoted, hsource, hfind, hset, hresult⟩

/-- Objects that come back and that every accessor reads alike have the same arguments. -/
theorem ComesBack.arguments_eq {arguments arguments' : List Datum}
    (hfind : session.find? value.name = some value)
    (hread : ∀ accessor, value.read arguments accessor = value.read arguments' accessor)
    (h : session.ComesBack value.name (.object value.name arguments))
    (h' : session.ComesBack value.name (.object value.name arguments')) :
    arguments = arguments' := by
  obtain ⟨shadow, result, hshadow, hconstruct, hrebuild⟩ := h
  obtain ⟨shadow', result', hshadow', hconstruct', hrebuild'⟩ := h'
  cases hshadow.symm.trans hshadow'
  cases (construct_congr hfind hread hconstruct).symm.trans hconstruct'
  cases hrebuild.symm.trans hrebuild'
  rfl

/-- If all objects of a value class come back, its accessors are distinct: an argument that no
accessor reads could be changed, and the object would become the same. -/
theorem nodup_accessors_of_comesBack (hfind : session.find? value.name = some value)
    (hvaried : ∀ property ∈ value.schema.properties,
      ∃ other, session.Holds property.type other ∧ other ≠ property.type.initial)
    (hback : ∀ object, session.Holds (.valueRef value.name) object → object ≠ .null →
      session.ComesBack value.name object) :
    (value.schema.properties.map Property.accessor).Nodup := by
  refine value.schema.nodup_accessors_of_find? fun lost hlost => ?_
  -- Otherwise no accessor reads this property, and two objects that differ there become the same.
  by_contra hunread
  obtain ⟨other, hother, hne⟩ := hvaried lost hlost
  have hsame : ∀ property ∈ value.schema.properties, property.name = lost.name → property = lost :=
    fun property hproperty => List.inj_on_of_nodup_map value.schema.distinct hproperty hlost
  have hinitial : session.Holds (.valueRef value.name)
      (value.objectOf fun property => property.type.initial) :=
    holds_objectOf hfind fun property _ => holds_initial property.type
  have hbut : session.Holds (.valueRef value.name)
      (value.objectOf (Property.initialBut lost.name other)) := by
    refine holds_objectOf hfind fun property hproperty => ?_
    rw [Property.initialBut]
    split
    · next hname => rwa [hsame property hproperty hname]
    · exact holds_initial property.type
  have hread : ∀ accessor,
      value.read (value.schema.properties.map fun property => property.type.initial) accessor =
        value.read (value.schema.properties.map (Property.initialBut lost.name other)) accessor := by
    refine value.read_congr fun property hproperty hfound => ?_
    rw [Property.initialBut, if_neg]
    intro hname
    exact hunread (hsame property hproperty hname ▸ hfound)
  have heq := ComesBack.arguments_eq hfind hread
    (hback _ hinitial (by simp)) (hback _ hbut (by simp))
  have hlost := List.map_inj_left.1 heq lost hlost
  rw [Property.initialBut, if_pos rfl] at hlost
  exact hne hlost.symm

/-! ## All objects of a value class -/

/-- What makes objects come back but for the accessors of this value class. -/
structure CompleteBut (session : Session) (value : ValueClass) : Prop where
  distinct : (session.catalog.map ValueClass.name).Nodup
  known : value ∈ session.catalog
  accessors : ∀ other ∈ session.catalog, other.name ≠ value.name →
    (other.schema.properties.map Property.accessor).Nodup
  success : session.run.isSuccess = true
  references : ∀ unit ∈ session.run.units, ∀ reference ∈ unit.references,
    (session.find? reference).isSome

/-- With distinct accessors, nothing is missing. -/
theorem CompleteBut.complete (h : session.CompleteBut value)
    (haccessors : (value.schema.properties.map Property.accessor).Nodup) : session.Complete :=
  { distinct := h.distinct
    accessors := by
      intro other hother
      by_cases hname : other.name = value.name
      · rwa [List.inj_on_of_nodup_map h.distinct hother h.known hname]
      · exact h.accessors other hother hname
    success := h.success
    references := h.references }

/-- In a session that misses nothing, every object of a unit's value class comes back. -/
theorem Complete.comesBack (h : session.Complete) {unit : GeneratedClass}
    (hunit : unit ∈ session.run.units) {object : Datum}
    (hobject : session.Holds (.valueRef unit.valueClass) object) (hpresent : object ≠ .null) :
    session.ComesBack unit.valueClass object := by
  obtain ⟨generated, hgenerated, -⟩ := claimed_eq_canonical hunit
  have hname := Naming.shadowName_eq_ok.2 ⟨generated, hgenerated, rfl⟩
  have hgoes : ∀ name, (Conversion.nested unit.valueClass (generated.nested
      session.settings.naming.shadowSuffix)).valueClass? = some name →
      ∃ other ∈ session.run.units, other.valueClass = name := by
    intro name heq
    cases heq
    exact ⟨unit, hunit, rfl⟩
  obtain ⟨result, hresult⟩ := hobject.exists_converted h (.nested hname) hgoes
  exact ⟨_, result, hname, hresult.across hpresent⟩

/-- All objects of a value class with a unit come back exactly if its accessors are distinct. -/
theorem forall_comesBack_iff (h : session.CompleteBut value)
    (hunit : ∃ unit ∈ session.run.units, unit.valueClass = value.name) :
    (∀ object, session.Holds (.valueRef value.name) object → object ≠ .null →
      session.ComesBack value.name object) ↔
      (value.schema.properties.map Property.accessor).Nodup := by
  obtain ⟨unit, hunit, hname⟩ := hunit
  constructor
  · intro hback
    have hfind := find?_name h.distinct h.known
    obtain ⟨converted, hassembled⟩ :=
      exists_assembled_of_find? h.distinct hunit (hname ▸ hfind)
    refine nodup_accessors_of_comesBack hfind (fun property hproperty => ?_) hback
    rw [← hassembled.properties] at hproperty
    obtain ⟨c, hc, rfl⟩ := List.mem_map.1 hproperty
    refine exists_ne_initial (hassembled.crosses c hc) fun name hvalue => ?_
    exact h.references unit hunit name (hassembled.mem_references.2 ⟨c, hc, hvalue⟩)
  · intro haccessors object hobject hpresent
    rw [← hname] at hobject ⊢
    exact (h.complete haccessors).comesBack hunit hobject hpresent

end

end Session

/-- For an accepted list of properties, three things are the same: no accessor that a property names
is that of another one; the accessors are distinct, and so no two assignments of a shadow class with
these properties read the same method; and all objects of such a value class come back unchanged,
wherever nothing but its accessors can be in the way. -/
theorem accessors_apart_iff {properties : List Property} {schema : Schema}
    (haccepted : Schema.ofList properties = .ok schema) :
    ((properties.map Property.accessor).Nodup ↔ AccessorsApart properties) ∧
    (∀ (naming : Naming) (value : ValueClass) (shaped : List ShapedProperty) (shadow : ShadowClass),
      value.schema = schema → schema.shaped = .ok shaped →
      ShadowClass.ofShaped naming value shaped = .ok shadow →
      ((shadow.forwardConstructor.assignments.map (·.accessor)).Nodup ↔
        AccessorsApart properties)) ∧
    ∀ (session : Session) (value : ValueClass), value.schema = schema →
      session.CompleteBut value → (∃ unit ∈ session.run.units, unit.valueClass = value.name) →
      ((∀ object, session.Holds (.valueRef value.name) object → object ≠ .null →
        session.ComesBack value.name object) ↔ AccessorsApart properties) := by
  cases Schema.ofList_eq_ok.1 haccepted
  refine ⟨schema.nodup_accessors_iff, ?_, ?_⟩
  · rintro naming value shaped shadow rfl hshaped hshadow
    rw [ShadowClass.accessors_of_ofShaped hshaped hshadow, value.schema.nodup_accessors_iff]
  · rintro session value rfl hcomplete hunit
    rw [Session.forall_comesBack_iff hcomplete hunit, value.schema.nodup_accessors_iff]

/-- A session over this one value class. -/
def Session.alone (value : ValueClass) : Session :=
  ⟨{}, [value]⟩

/-- A note with two properties, each read through a method with the name of the other one, and the
note after it. -/
def swappedAccessors : ValueClass :=
  Session.markedClass (.ofClass "com.example" "Note")
    { properties := [⟨"title", .primitive .string, some "text", []⟩,
        ⟨"text", .primitive .string, some "title", []⟩,
        ⟨"next", .valueRef (.ofClass "com.example" "Note"), none, []⟩]
      spellable := by decide +kernel
      distinct := by decide }

/-- The methods of the note are read once each, and all notes come back. -/
theorem accessors_apart_iff_swappedAccessors :
    Schema.ofList swappedAccessors.schema.properties = .ok swappedAccessors.schema ∧
      AccessorsApart swappedAccessors.schema.properties ∧
      (swappedAccessors.schema.properties.map Property.accessor).Nodup ∧
      (∃ shaped shadow, swappedAccessors.schema.shaped = .ok shaped ∧
        ShadowClass.ofShaped {} swappedAccessors shaped = .ok shadow ∧
        (shadow.forwardConstructor.assignments.map (·.accessor)).Nodup) ∧
      ∀ object, (Session.alone swappedAccessors).Holds (.valueRef swappedAccessors.name) object →
        object ≠ .null →
        (Session.alone swappedAccessors).ComesBack swappedAccessors.name object := by
  have haccepted : Schema.ofList swappedAccessors.schema.properties = .ok swappedAccessors.schema :=
    Schema.ofList_eq_ok.2 rfl
  obtain ⟨hdistinct, hread, hback⟩ := accessors_apart_iff haccepted
  have hapart : AccessorsApart swappedAccessors.schema.properties := by
    simp [AccessorsApart, swappedAccessors, Session.markedClass, Property.accessor]
  have hgenerates : (GeneratedClass.ofValue {} swappedAccessors).toOption.isSome := by
    decide +kernel
  obtain ⟨generated, hgenerated⟩ := Option.isSome_iff_exists.1 hgenerates
  obtain ⟨shaped, shadow, _, hshaped, hshadow, -, -⟩ :=
    GeneratedClass.ofValue_eq_ok.1 (toOption_eq_some.1 hgenerated)
  have hcomplete : (Session.alone swappedAccessors).CompleteBut swappedAccessors :=
    { distinct := by simp [Session.alone]
      known := by simp [Session.alone]
      accessors := by simp [Session.alone]
      success := by decide +kernel
      references := by decide +kernel }
  have hunit : ∃ unit ∈ (Session.alone swappedAccessors).run.units,
      unit.valueClass = swappedAccessors.name := by
    decide +kernel
  exact ⟨haccepted, hapart, hdistinct.2 hapart,
    ⟨shaped, shadow, hshaped, hshadow, (hread {} _ shaped shadow rfl hshaped hshadow).2 hapart⟩,
    (hback _ _ rfl hcomplete hunit).2 hapart⟩

/-- An item with two properties that are read through one method. -/
def readTwice : ValueClass :=
  Session.markedClass (.ofClass "com.example" "Item")
    { properties := [⟨"first", .primitive .string, some "name", []⟩,
        ⟨"name", .primitive .string, none, []⟩]
      spellable := by decide +kernel
      distinct := by decide }

/-- The two properties are accepted, both assignments of the item read one method, and not all items
come back. -/
theorem not_accessors_apart_readTwice :
    Schema.ofList readTwice.schema.properties = .ok readTwice.schema ∧
      ¬ (readTwice.schema.properties.map Property.accessor).Nodup ∧
      (∃ unit ∈ (Session.alone readTwice).run.units, unit.valueClass = readTwice.name ∧
        unit.shadow.forwardConstructor.assignments.map (·.accessor) = ["name", "name"]) ∧
      ¬ ∀ object, (Session.alone readTwice).Holds (.valueRef readTwice.name) object →
        object ≠ .null → (Session.alone readTwice).ComesBack readTwice.name object := by
  have hshared : ¬ (readTwice.schema.properties.map Property.accessor).Nodup := by
    simp [readTwice, Session.markedClass, Property.accessor]
  have hcomplete : (Session.alone readTwice).CompleteBut readTwice :=
    { distinct := by simp [Session.alone]
      known := by simp [Session.alone]
      accessors := by simp [Session.alone]
      success := by decide +kernel
      references := by decide +kernel }
  have hunit : ∃ unit ∈ (Session.alone readTwice).run.units, unit.valueClass = readTwice.name ∧
      unit.shadow.forwardConstructor.assignments.map (·.accessor) = ["name", "name"] := by
    decide +kernel
  refine ⟨Schema.ofList_eq_ok.2 rfl, hshared, hunit, ?_⟩
  obtain ⟨unit, hmem, hname, -⟩ := hunit
  rwa [Session.forall_comesBack_iff hcomplete ⟨unit, hmem, hname⟩]

end ValueShadow
