import ValueShadow.Proofs.Objects.Crossing
import ValueShadow.Proofs.Session.Ownership
import Mathlib.Tactic.Choose

/-!
# Objects come back unchanged

In a successful run over a catalog that holds everything its units refer to, an object of a unit's
value class becomes an object of the shadow class, and that becomes the same object again
(`objects_come_back`). The values are those of the types (`Session.Holds`), of any depth and across
classes that refer to each other; the proof is an induction on them. An object goes there and back
if each of its arguments does (`roundTrips_rows`), since a shadow class has one assignment and
one binding for each property and the names of properties are distinct.
-/

namespace ValueShadow

/-- The type of the elements, if the type is that of a list. -/
def PropertyType.listElement? : PropertyType → Option PropertyType
  | .collection .list element | .keyed .list _ element => some element
  | _ => none

namespace Session

/-- The values of a type. Everything but an unboxed primitive may be absent. The elements of a
container have the type of its elements, and only primitive-like ones may be absent, since an object
is made of every other one. An object has one argument for each property of its class, of the type
of the property. -/
inductive Holds (session : Session) : PropertyType → Datum → Prop where
  | absent {type : PropertyType} : (∀ kind, type ≠ .primitive (.unboxed kind)) →
      Holds session type .null
  | scalar {primitive : Primitive} {text : String} :
      Holds session (.primitive primitive) (.scalar text)
  | list {type element : PropertyType} {items : List Datum} :
      type.listElement? = some element → (∀ item ∈ items, Holds session element item) →
      (.null ∈ items → element.isPrimitive) → Holds session type (.list items)
  | map {key element : PropertyType} {entries : List (String × Datum)} :
      (∀ entry ∈ entries, Holds session element entry.2) →
      (.null ∈ entries.map Prod.snd → element.isPrimitive) →
      Holds session (.keyed .map key element) (.map entries)
  | object {name : QualifiedName} {value : ValueClass} {arguments : List Datum} :
      session.find? name = some value → arguments.length = value.schema.properties.length →
      (∀ pair ∈ value.schema.properties.zip arguments, Holds session pair.1.type pair.2) →
      Holds session (.valueRef name) (.object name arguments)

/-- A property of an object on its way: its argument and the value of its field. -/
structure Row where
  converted : ConvertedProperty
  argument : Datum
  field : Datum

namespace Row

/-- The name of the property. -/
def name (row : Row) : String :=
  row.converted.property.name

/-- The conversion of the property takes the argument to the field. -/
def Crosses (Across : QualifiedName → Datum → Datum → Prop) (row : Row) : Prop :=
  row.converted.conversion.Converted Across row.argument row.field

end Row

section
variable {session : Session} {shadow : QualifiedName} {unit : GeneratedClass}

/-- A shadow class denotes the one unit for whose value class references spell it. -/
theorem denoted_eq_some :
    session.denoted shadow = some unit ↔
      unit ∈ session.run.units ∧
        session.settings.naming.shadowName unit.valueClass = .ok shadow := by
  have hdenoted : ∀ other, session.denoted shadow = some other → other ∈ session.run.units ∧
      session.settings.naming.shadowName other.valueClass = .ok shadow := by
    intro other hother
    rw [denoted] at hother
    have hname := List.find?_some hother
    exact ⟨List.mem_of_find?_eq_some hother, toOption_eq_some.1 (of_decide_eq_true hname)⟩
  refine ⟨hdenoted unit, fun ⟨hunit, hname⟩ => ?_⟩
  have hsome : (session.denoted shadow).isSome := by
    rw [denoted, List.find?_isSome]
    exact ⟨unit, hunit, decide_eq_true (toOption_eq_some.2 hname)⟩
  obtain ⟨other, hother⟩ := Option.isSome_iff_exists.1 hsome
  obtain ⟨hmem, hname'⟩ := hdenoted other hother
  rw [hother, eq_of_shadowName_eq hmem hunit hname' hname]

/-! ## One object -/

section
variable {value : ValueClass} {rows : List Row}

/-- The rows of a value class are its properties in their order. -/
theorem properties_eq_map (hassembled : unit.Assembled session.settings.naming value
    (rows.map Row.converted)) : value.schema.properties = rows.map (·.converted.property) := by
  rw [← hassembled.properties, List.map_map]
  rfl

/-- The rows of a value class have different names. -/
theorem nodup_rows (hassembled : unit.Assembled session.settings.naming value
    (rows.map Row.converted)) : (rows.map Row.name).Nodup := by
  have hdistinct := value.schema.distinct
  rwa [properties_eq_map hassembled, List.map_map] at hdistinct

/-- The accessor of a row reads its argument. -/
theorem read_row (hassembled : unit.Assembled session.settings.naming value
    (rows.map Row.converted))
    (haccessors : (value.schema.properties.map Property.accessor).Nodup) {row : Row}
    (hrow : row ∈ rows) :
    value.read (rows.map Row.argument) row.converted.property.accessor = some row.argument := by
  rw [properties_eq_map hassembled, List.map_map] at haccessors
  have hpairs : (value.schema.properties.map Property.accessor).zip (rows.map Row.argument) =
      rows.map fun row => (row.converted.property.accessor, row.argument) := by
    rw [properties_eq_map hassembled, List.map_map, List.zip_map']
    rfl
  rw [ValueClass.read, hpairs, lookup_eq_some_iff_mem (by rwa [List.map_map])]
  exact List.mem_map_of_mem hrow

/-- The object of the shadow class has the fields of the rows. -/
theorem construct_rows (hdenoted : session.denoted shadow = some unit)
    (hassembled : unit.Assembled session.settings.naming value (rows.map Row.converted))
    (hfind : session.find? value.name = some value)
    (haccessors : (value.schema.properties.map Property.accessor).Nodup)
    (hrows : ∀ row ∈ rows, row.Crosses fun shadow part result =>
      session.construct shadow part = some result) :
    session.construct shadow (.object value.name (rows.map Row.argument)) =
      some (.shadow shadow (fieldsAfter unit (rows.map fun row => (row.name, row.field)))) := by
  refine construct_object_eq_some.2
    ⟨unit, value, _, hdenoted, hassembled.source.symm, hfind, ?_, rfl⟩
  rw [hassembled.assignments, List.forall₂_map_left_iff, List.forall₂_map_left_iff,
    List.forall₂_map_right_iff, List.forall₂_same]
  intro row hrow
  exact ⟨rfl, row.argument, read_row hassembled haccessors hrow, hrows row hrow⟩

/-- An object with the fields of the rows becomes the object of the value class with their
arguments. -/
theorem rebuild_rows (hdenoted : session.denoted shadow = some unit)
    (hassembled : unit.Assembled session.settings.naming value (rows.map Row.converted))
    {fields : List (String × Datum)}
    (hfields : ∀ row ∈ rows, fields.lookup row.name = some row.field)
    (hrows : ∀ row ∈ rows, row.converted.conversion.Converted (fun _ part result =>
      session.rebuild part = some result) row.field row.argument) :
    session.rebuild (.shadow shadow fields) =
      some (.object value.name (rows.map Row.argument)) := by
  let locals := rows.map fun row => (row.name, row.argument)
  refine rebuild_shadow_eq_some.2
    ⟨unit, locals, rows.map Row.argument, hdenoted, ?_, ?_, by rw [hassembled.source]⟩
  · rw [hassembled.bindings, List.forall₂_map_left_iff, List.forall₂_map_left_iff,
      List.forall₂_map_right_iff, List.forall₂_same]
    intro row hrow
    exact ⟨rfl, row.field, hfields row hrow, hrows row hrow⟩
  · have hlocals : (locals.map Prod.fst).Nodup := by
      rw [List.map_map]
      exact nodup_rows hassembled
    rw [hassembled.arguments, List.forall₂_map_left_iff, List.forall₂_map_left_iff,
      List.forall₂_map_right_iff, List.forall₂_same]
    intro row hrow
    exact (lookup_eq_some_iff_mem hlocals).2 (List.mem_map_of_mem hrow)

/-- An object goes there and back if each of its rows does. -/
theorem roundTrips_rows (hdenoted : session.denoted shadow = some unit)
    (hassembled : unit.Assembled session.settings.naming value (rows.map Row.converted))
    (hfind : session.find? value.name = some value)
    (haccessors : (value.schema.properties.map Property.accessor).Nodup)
    (hrows : ∀ row ∈ rows, row.Crosses session.RoundTrips) :
    ∃ fields, session.RoundTrips shadow (.object value.name (rows.map Row.argument))
      (.shadow shadow fields) := by
  have hset : ((rows.map fun row => (row.name, row.field)).map Prod.fst).Nodup := by
    rw [List.map_map]
    exact nodup_rows hassembled
  refine ⟨_, construct_rows hdenoted hassembled hfind haccessors fun row hrow => ?_,
    rebuild_rows hdenoted hassembled (fun row hrow => ?_) fun row hrow => ?_⟩
  · exact (hrows row hrow).mono fun _ _ _ hacross => hacross.1
  · exact lookup_foldl_setPair hset (List.mem_map_of_mem hrow)
  · refine (hrows row hrow).reverse fun shadow part result hacross => ?_
    obtain ⟨_, rfl⟩ := exists_fields_of_construct hacross.1
    exact ⟨by simp, hacross.2⟩

end

/-- An object goes there and back if each of its arguments does under the conversion of its
property. -/
theorem exists_roundTrips {value : ValueClass} {converted : List ConvertedProperty}
    (hdenoted : session.denoted shadow = some unit)
    (hassembled : unit.Assembled session.settings.naming value converted)
    (hfind : session.find? value.name = some value)
    (haccessors : (value.schema.properties.map Property.accessor).Nodup) {arguments : List Datum}
    (hlength : arguments.length = value.schema.properties.length)
    (hfields : ∀ pair ∈ converted.zip arguments, ∃ field,
      pair.1.conversion.Converted session.RoundTrips pair.2 field) :
    ∃ fields, session.RoundTrips shadow (.object value.name arguments) (.shadow shadow fields) := by
  choose! field hfield using hfields
  let rows := (converted.zip arguments).map fun pair => Row.mk pair.1 pair.2 (field pair)
  have hlength : arguments.length = converted.length := by
    rw [hlength, ← hassembled.properties, List.length_map]
  have hconverted : rows.map Row.converted = converted := by
    rw [List.map_map]
    exact List.map_fst_zip hlength.ge
  have harguments : rows.map Row.argument = arguments := by
    rw [List.map_map]
    exact List.map_snd_zip hlength.le
  have hrows : ∀ row ∈ rows, row.Crosses session.RoundTrips := by
    intro row hrow
    obtain ⟨pair, hpair, rfl⟩ := List.mem_map.1 hrow
    exact hfield pair hpair
  rw [← hconverted] at hassembled
  rw [← harguments]
  exact roundTrips_rows hdenoted hassembled hfind haccessors hrows

/-! ## All objects -/

/-- What makes the values of a session come back. Every value class is known once, its accessors
read one property each, and what the units refer to is generated too. -/
structure Complete (session : Session) : Prop where
  distinct : (session.catalog.map ValueClass.name).Nodup
  accessors : ∀ value ∈ session.catalog,
    (value.schema.properties.map Property.accessor).Nodup
  success : session.run.isSuccess = true
  references : ∀ unit ∈ session.run.units, ∀ reference ∈ unit.references,
    (session.find? reference).isSome

/-- Where every value class is known once, a unit is made from the entry that its value class
names. -/
theorem exists_assembled_of_find? (hdistinct : (session.catalog.map ValueClass.name).Nodup)
    (hunit : unit ∈ session.run.units) {value : ValueClass}
    (hfind : session.find? unit.valueClass = some value) :
    ∃ converted, unit.Assembled session.settings.naming value converted := by
  obtain ⟨entry, hentry, hname, hassembled⟩ := Session.exists_assembled hunit
  have hvalue := find?_name hdistinct hentry
  rw [hname, hfind] at hvalue
  cases hvalue
  exact hassembled

/-- A unit of such a session is made from the entry that its value class names. -/
theorem Complete.exists_assembled (h : session.Complete) (hunit : unit ∈ session.run.units)
    {value : ValueClass} (hfind : session.find? unit.valueClass = some value) :
    ∃ converted, unit.Assembled session.settings.naming value converted :=
  exists_assembled_of_find? h.distinct hunit hfind

/-- Every value class that a conversion of a unit goes through has a unit. -/
theorem Complete.exists_unit (h : session.Complete) (hunit : unit ∈ session.run.units)
    {value : ValueClass} {converted : List ConvertedProperty}
    (hassembled : unit.Assembled session.settings.naming value converted) {c : ConvertedProperty}
    (hc : c ∈ converted) {name : QualifiedName} (hname : c.conversion.valueClass? = some name) :
    ∃ other ∈ session.run.units, other.valueClass = name := by
  have hreference := hassembled.mem_references.2 ⟨c, hc, hname⟩
  have hfind := h.references unit hunit name hreference
  exact exists_unit_of_reference h.success hunit hreference hfind

/-- Every value that a type holds can be converted so that it comes back, if the value class that
the conversion goes through has a unit. -/
theorem Holds.exists_converted (hcomplete : session.Complete) {type : PropertyType} {value : Datum}
    (h : session.Holds type value) {conversion : Conversion}
    (hcrosses : type.Crosses session.settings.naming conversion)
    (hunit : ∀ name, conversion.valueClass? = some name →
      ∃ unit ∈ session.run.units, unit.valueClass = name) :
    ∃ result, conversion.Converted session.RoundTrips value result := by
  induction h generalizing conversion with
  | absent => exact ⟨.null, .null⟩
  | scalar =>
    cases hcrosses with
    | copied => exact ⟨_, .copy⟩
  | @list type element items helement hitems habsent ih =>
    cases hcrosses with
    | copied => exact ⟨_, .copy⟩
    | nested => cases helement
    | map => cases helement
    | list hshadow | keyedList hshadow =>
      cases helement
      have hpresent : .null ∉ items := by
        intro hmem
        cases habsent hmem
      exact Conversion.exists_converted_list hpresent
        fun item hitem => ih item hitem (.nested hshadow) hunit
  | @map key element entries hentries habsent ih =>
    cases hcrosses with
    | copied => exact ⟨_, .copy⟩
    | map hshadow =>
      have hpresent : .null ∉ entries.map Prod.snd := by
        intro hmem
        cases habsent hmem
      exact Conversion.exists_converted_map hpresent
        fun entry hentry => ih entry hentry (.nested hshadow) hunit
  | @object name value arguments hfind hlength harguments ih =>
    cases hcrosses with
    | copied hshape => cases hshape
    | @nested _ shadow hshadow =>
      obtain ⟨unit, hmem, rfl⟩ := hunit name rfl
      obtain ⟨converted, hassembled⟩ := hcomplete.exists_assembled hmem hfind
      have hfields : ∀ pair ∈ converted.zip arguments, ∃ field,
          pair.1.conversion.Converted session.RoundTrips pair.2 field := by
        intro pair hpair
        have hpair' : (pair.1.property, pair.2) ∈ value.schema.properties.zip arguments := by
          rw [← hassembled.properties, List.zip_map_left]
          exact List.mem_map_of_mem hpair
        have hc := (List.of_mem_zip hpair).1
        exact ih _ hpair' (hassembled.crosses pair.1 hc)
          fun _ => hcomplete.exists_unit hmem hassembled hc
      obtain ⟨hentry, hname⟩ := mem_of_find? hfind
      obtain ⟨fields, hfields⟩ := exists_roundTrips (denoted_eq_some.2 ⟨hmem, hshadow⟩) hassembled
        (hname ▸ hfind) (hcomplete.accessors value hentry) hlength hfields
      rw [hname] at hfields
      exact ⟨.shadow shadow fields, .nested (by simp) hfields⟩

/-- Objects come back unchanged. An object of a unit's value class becomes an object of the shadow
class that references to the value class spell, which denotes the unit; and that object becomes the
same object again. -/
theorem objects_come_back (session : Session) (hcomplete : session.Complete) :
    ∀ unit ∈ session.run.units, ∀ object, session.Holds (.valueRef unit.valueClass) object →
      object ≠ .null →
      ∃ shadow fields, session.settings.naming.shadowName unit.valueClass = .ok shadow ∧
        session.denoted shadow = some unit ∧
        session.construct shadow object = some (.shadow shadow fields) ∧
        session.rebuild (.shadow shadow fields) = some object := by
  intro unit hunit object hobject hpresent
  obtain ⟨generated, hgenerated, -⟩ := claimed_eq_canonical hunit
  have hname := Naming.shadowName_eq_ok.2 ⟨generated, hgenerated, rfl⟩
  obtain ⟨result, hresult⟩ := hobject.exists_converted hcomplete (.nested hname) (by
    intro name heq
    cases heq
    exact ⟨unit, hunit, rfl⟩)
  obtain ⟨hconstruct, hrebuild⟩ := hresult.across hpresent
  obtain ⟨fields, rfl⟩ := exists_fields_of_construct hconstruct
  exact ⟨_, fields, hname, denoted_eq_some.2 ⟨hunit, hname⟩, hconstruct, hrebuild⟩

end

/-- A user has a team. -/
def userClass : ValueClass :=
  markedClass (.ofClass "com.example" "User")
    { properties := [
        ⟨"name", .primitive .string, some "getName", []⟩,
        ⟨"team", .valueRef (.ofClass "com.example" "Team"), none, []⟩]
      spellable := by decide +kernel
      distinct := by decide }

/-- A team has members, and users in roles. -/
def teamClass : ValueClass :=
  { name := .ofClass "com.example" "Team"
    schema :=
      { properties := [
          ⟨"members", .collection .list (.valueRef (.ofClass "com.example" "User")), none, []⟩,
          ⟨"roles", .keyed .map (.primitive .string) (.valueRef (.ofClass "com.example" "User")),
            none, []⟩]
        spellable := by decide +kernel
        distinct := by decide } }

/-- Users and teams refer to each other; only users are marked. -/
def teams : Session :=
  ⟨{}, [userClass, teamClass]⟩

/-- A user of this team. -/
def user (name : String) (team : Datum) : Datum :=
  .object (.ofClass "com.example" "User") [.scalar name, team]

/-- A user of a team with two more users, who have none. -/
def leader : Datum :=
  user "Ada" (.object (.ofClass "com.example" "Team")
    [.list [user "Bob" .null], .map [("lead", user "Cy" .null)]])

/-- The leader comes back with the team and all its users. -/
theorem objects_come_back_leader :
    teams.Complete ∧ teams.Holds (.valueRef (.ofClass "com.example" "User")) leader ∧
      ∃ unit ∈ teams.run.units, unit.valueClass = .ofClass "com.example" "User" ∧
        ∃ shadow fields, teams.construct shadow leader = some (.shadow shadow fields) ∧
          teams.rebuild (.shadow shadow fields) = some leader := by
  have hcomplete : teams.Complete :=
    { distinct := by decide +kernel
      accessors := by decide +kernel
      success := by decide +kernel
      references := by decide +kernel }
  have huser : ∀ name team, teams.Holds (.valueRef (.ofClass "com.example" "Team")) team →
      teams.Holds (.valueRef (.ofClass "com.example" "User")) (user name team) := by
    intro name team hteam
    have hfind : teams.find? (.ofClass "com.example" "User") = some userClass := rfl
    refine .object hfind rfl fun pair hpair => ?_
    rcases hpair with _ | ⟨_, _ | ⟨_, hpair⟩⟩
    · exact .scalar
    · exact hteam
    · cases hpair
  have halone : ∀ name,
      teams.Holds (.valueRef (.ofClass "com.example" "User")) (user name .null) :=
    fun name => huser name .null (.absent (by simp))
  have hleader : teams.Holds (.valueRef (.ofClass "com.example" "User")) leader := by
    have hfind : teams.find? (.ofClass "com.example" "Team") = some teamClass := rfl
    refine huser "Ada" _ (.object hfind rfl fun pair hpair => ?_)
    rcases hpair with _ | ⟨_, _ | ⟨_, hpair⟩⟩
    · refine .list rfl (fun item hitem => ?_) (by simp [user])
      rw [List.mem_singleton.1 hitem]
      exact halone "Bob"
    · refine .map (fun entry hentry => ?_) (by simp [user])
      rw [List.mem_singleton.1 hentry]
      exact halone "Cy"
    · cases hpair
  have hunit : ∃ unit ∈ teams.run.units, unit.valueClass = .ofClass "com.example" "User" := by
    decide +kernel
  obtain ⟨unit, hmem, hname⟩ := hunit
  obtain ⟨shadow, fields, -, -, hconstruct, hrebuild⟩ :=
    objects_come_back teams hcomplete unit hmem leader (hname ▸ hleader) (by simp [leader, user])
  exact ⟨hcomplete, hleader, unit, hmem, hname, shadow, fields, hconstruct, hrebuild⟩

end Session

end ValueShadow
