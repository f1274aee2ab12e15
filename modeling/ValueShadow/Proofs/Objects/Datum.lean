import ValueShadow.Proofs.Result
import ValueShadow.ShadowClass.Basic
import Mathlib.Tactic.Choose

/-!
# Values at run time

A `Datum` is what a property holds: nothing, a primitive-like value, a container or an object. A
conversion (`Conversion.convert`) copies a value, or takes each value object in it across to the
shadow class; what is absent stays absent. `Conversion.Converted` says the same as a relation
(`Conversion.convert_eq_some`), in which a conversion can be turned around (`Converted.reverse`).
-/

namespace ValueShadow

/-- A value of a property. -/
inductive Datum where
  /-- The value is absent. -/
  | null
  /-- A primitive-like value. -/
  | scalar (text : String)
  | list (items : List Datum)
  /-- The entries of a map in the order of insertion. -/
  | map (entries : List (String × Datum))
  /-- An object of a value class with the arguments that its constructor got. -/
  | object (valueClass : QualifiedName) (arguments : List Datum)
  /-- An object of a shadow class with its fields by their names. -/
  | shadow (shadowClass : QualifiedName) (fields : List (String × Datum))

instance : Inhabited Datum :=
  ⟨.null⟩

namespace Datum

/-- An item of a list is smaller than the list. -/
theorem sizeOf_lt_of_mem_list {items : List Datum} {item : Datum} (h : item ∈ items) :
    sizeOf item < sizeOf (list items) := by
  have := List.sizeOf_lt_of_mem h
  simp only [list.sizeOf_spec]
  omega

/-- The value of a pair in a list is smaller than the list. -/
theorem sizeOf_snd_lt_of_mem {pairs : List (String × Datum)} {pair : String × Datum}
    (h : pair ∈ pairs) : sizeOf pair.2 < sizeOf pairs := by
  have hpair := List.sizeOf_lt_of_mem h
  have hsnd : sizeOf pair.2 < sizeOf pair := by
    cases pair
    simp only [Prod.mk.sizeOf_spec]
    omega
  exact Nat.lt_trans hsnd hpair

/-- The value of an entry of a map is smaller than the map. -/
theorem sizeOf_lt_of_mem_map {entries : List (String × Datum)} {entry : String × Datum}
    (h : entry ∈ entries) : sizeOf entry.2 < sizeOf (map entries) := by
  have := sizeOf_snd_lt_of_mem h
  simp only [map.sizeOf_spec]
  omega

/-- The entry with its value taken across. -/
def entryAcross (across : Datum → Option Datum) (entry : String × Datum) :
    Option (String × Datum) :=
  (across entry.2).map fun value => (entry.1, value)

/-- An entry that is taken across keeps its key. -/
theorem entryAcross_eq_some {across : Datum → Option Datum} {entry result : String × Datum} :
    entryAcross across entry = some result ↔
      entry.1 = result.1 ∧ across entry.2 = some result.2 := by
  rw [entryAcross, Option.map_eq_some_iff]
  constructor
  · rintro ⟨value, hvalue, rfl⟩
    exact ⟨rfl, hvalue⟩
  · rintro ⟨hkey, hvalue⟩
    exact ⟨result.2, hvalue, Prod.ext hkey rfl⟩

end Datum

namespace Conversion

/-- The converted value. What is absent stays absent; `across` takes a value object, or each of
those in a list or map, to the other class. -/
def convert (conversion : Conversion) (value : Datum)
    (across : QualifiedName → (part : Datum) → sizeOf part ≤ sizeOf value → Option Datum) :
    Option Datum :=
  match conversion, value with
  | _, .null => some .null
  | .copy, value => some value
  | .nested _ shadow, _ => across shadow _ (Nat.le_refl _)
  | .nestedList _ shadow _, .list items => do
    let items ← items.attach.mapM fun item =>
      across shadow item.1 (Nat.le_of_lt (Datum.sizeOf_lt_of_mem_list item.2))
    return .list items
  | .nestedMap _ _ shadow _, .map entries => do
    let entries ← entries.attach.mapM fun entry =>
      Datum.entryAcross (fun _ =>
        across shadow entry.1.2 (Nat.le_of_lt (Datum.sizeOf_lt_of_mem_map entry.2))) entry.1
    return .map entries
  | _, _ => none

/-- A name with the converted value of a source that may be missing. -/
def convertInto (conversion : Conversion) (name : String) (source : Option Datum)
    (across : QualifiedName → (part : Datum) → (∃ value ∈ source, sizeOf part ≤ sizeOf value) →
      Option Datum) : Option (String × Datum) :=
  match source with
  | none => none
  | some value =>
    (conversion.convert value fun shadow part hpart => across shadow part ⟨value, rfl, hpart⟩).map
      fun converted => (name, converted)

/-- The value is converted to the result, where `Across` relates objects of a value class to those
of the shadow class. -/
inductive Converted (Across : QualifiedName → Datum → Datum → Prop) :
    Conversion → Datum → Datum → Prop where
  | null {conversion : Conversion} : Converted Across conversion .null .null
  | copy {value : Datum} : Converted Across .copy value value
  | nested {valueClass shadow : QualifiedName} {value result : Datum} : value ≠ .null →
      Across shadow value result → Converted Across (.nested valueClass shadow) value result
  | list {valueClass shadow : QualifiedName} {item : String} {items results : List Datum} :
      List.Forall₂ (Across shadow) items results →
      Converted Across (.nestedList valueClass shadow item) (.list items) (.list results)
  | map {key : Primitive} {valueClass shadow : QualifiedName} {entry : String}
      {entries results : List (String × Datum)} :
      List.Forall₂ (fun a b => a.1 = b.1 ∧ Across shadow a.2 b.2) entries results →
      Converted Across (.nestedMap key valueClass shadow entry) (.map entries) (.map results)

section
variable {Across : QualifiedName → Datum → Datum → Prop} {conversion : Conversion}
  {value result : Datum}

/-- A conversion that takes objects across is turned around by one that takes them back, if no
object is taken to nothing. -/
theorem Converted.reverse {Back : QualifiedName → Datum → Datum → Prop}
    (hback : ∀ shadow part result, Across shadow part result →
      result ≠ .null ∧ Back shadow result part)
    (h : conversion.Converted Across value result) : conversion.Converted Back result value := by
  cases h with
  | null => exact .null
  | copy => exact .copy
  | nested _ hacross =>
    obtain ⟨hresult, hback⟩ := hback _ _ _ hacross
    exact .nested hresult hback
  | list hitems =>
    refine .list (hitems.flip.imp ?_)
    exact fun _ _ hacross => (hback _ _ _ hacross).2
  | map hentries =>
    refine .map (hentries.flip.imp ?_)
    exact fun _ _ hacross => ⟨hacross.1.symm, (hback _ _ _ hacross.2).2⟩

/-- A conversion depends on `across` only at the objects it takes. -/
theorem Converted.mono {Across' : QualifiedName → Datum → Datum → Prop}
    (hacross : ∀ shadow part result, Across shadow part result → Across' shadow part result)
    (h : conversion.Converted Across value result) : conversion.Converted Across' value result := by
  cases h with
  | null => exact .null
  | copy => exact .copy
  | nested hvalue h => exact .nested hvalue (hacross _ _ _ h)
  | list hitems => exact .list (hitems.imp fun _ _ h => hacross _ _ _ h)
  | map hentries => exact .map (hentries.imp fun _ _ h => ⟨h.1, hacross _ _ _ h.2⟩)

/-- A present value that is converted as one object is taken across. -/
theorem Converted.across {valueClass shadow : QualifiedName}
    (h : (Conversion.nested valueClass shadow).Converted Across value result)
    (hpresent : value ≠ .null) : Across shadow value result := by
  cases h with
  | null => exact absurd rfl hpresent
  | nested _ hacross => exact hacross

/-- A list can be converted if each of its items is present and can be converted as one object. -/
theorem exists_converted_list {valueClass shadow : QualifiedName} {item : String}
    {items : List Datum} (hpresent : .null ∉ items)
    (hitems : ∀ part ∈ items,
      ∃ result, (Conversion.nested valueClass shadow).Converted Across part result) :
    ∃ result, (Conversion.nestedList valueClass shadow item).Converted Across (.list items)
      result := by
  choose! result hresult using hitems
  refine ⟨.list (items.map result), .list ?_⟩
  rw [List.forall₂_map_right_iff, List.forall₂_same]
  intro part hpart
  exact (hresult part hpart).across fun hnull => hpresent (hnull ▸ hpart)

/-- A map can be converted if the value of each entry is present and can be converted as one
object. -/
theorem exists_converted_map {key : Primitive} {valueClass shadow : QualifiedName} {entry : String}
    {entries : List (String × Datum)} (hpresent : .null ∉ entries.map Prod.snd)
    (hentries : ∀ pair ∈ entries,
      ∃ result, (Conversion.nested valueClass shadow).Converted Across pair.2 result) :
    ∃ result, (Conversion.nestedMap key valueClass shadow entry).Converted Across (.map entries)
      result := by
  choose! result hresult using hentries
  refine ⟨.map (entries.map fun pair => (pair.1, result pair)), .map ?_⟩
  rw [List.forall₂_map_right_iff, List.forall₂_same]
  intro pair hpair
  refine ⟨rfl, (hresult pair hpair).across fun hnull => hpresent ?_⟩
  exact hnull ▸ List.mem_map_of_mem hpair

/-- A conversion has the results that the relation says. -/
theorem convert_eq_some {across : QualifiedName → Datum → Option Datum} :
    (conversion.convert value fun shadow part _ => across shadow part) = some result ↔
      conversion.Converted (fun shadow part result => across shadow part = some result)
        value result := by
  constructor
  · intro h
    cases value with
    | null =>
      cases conversion <;> cases h <;> exact .null
    | list items =>
      cases conversion with
      | copy =>
        cases h
        exact .copy
      | nested => exact .nested (by simp) h
      | nestedList =>
        obtain ⟨results, hresults, h⟩ := Option.bind_eq_some_iff.1 h
        cases h
        exact .list (mapM_attach_eq_some.1 hresults)
      | nestedMap => cases h
    | map entries =>
      cases conversion with
      | copy =>
        cases h
        exact .copy
      | nested => exact .nested (by simp) h
      | nestedList => cases h
      | nestedMap _ _ shadow =>
        obtain ⟨results, hresults, h⟩ := Option.bind_eq_some_iff.1 h
        cases h
        have hresults := (mapM_attach_eq_some (f := Datum.entryAcross (across shadow))).1 hresults
        exact .map (hresults.imp fun _ _ => Datum.entryAcross_eq_some.1)
    | scalar | object | shadow =>
      cases conversion with
      | copy =>
        cases h
        exact .copy
      | nested => exact .nested (by simp) h
      | nestedList => cases h
      | nestedMap => cases h
  · intro h
    cases h with
    | null => cases conversion <;> rfl
    | copy => cases value <;> rfl
    | nested hvalue hacross => cases value <;> first | exact absurd rfl hvalue | exact hacross
    | list hitems =>
      exact Option.bind_eq_some_iff.2 ⟨_, mapM_attach_eq_some.2 hitems, rfl⟩
    | @map _ _ shadow _ _ _ hentries =>
      have hresults := hentries.imp fun _ _ => Datum.entryAcross_eq_some.2
      exact Option.bind_eq_some_iff.2
        ⟨_, (mapM_attach_eq_some (f := Datum.entryAcross (across shadow))).2 hresults, rfl⟩

/-- A name is paired with what the source is converted to. -/
theorem convertInto_eq_some {across : QualifiedName → Datum → Option Datum} {name : String}
    {source : Option Datum} {pair : String × Datum} :
    (conversion.convertInto name source fun shadow part _ => across shadow part) = some pair ↔
      name = pair.1 ∧ ∃ value, source = some value ∧
        conversion.Converted (fun shadow part result => across shadow part = some result)
          value pair.2 := by
  cases source with
  | none => simp [convertInto]
  | some value =>
    rw [convertInto, Option.map_eq_some_iff]
    constructor
    · rintro ⟨converted, hconverted, rfl⟩
      exact ⟨rfl, value, rfl, convert_eq_some.1 hconverted⟩
    · rintro ⟨hname, source, hsource, hconverted⟩
      cases hsource
      exact ⟨pair.2, convert_eq_some.2 hconverted, Prod.ext hname rfl⟩

end

end Conversion

end ValueShadow
