import ValueShadow.Proofs.Schema
import ValueShadow.Proofs.ShadowClass.Assembly
import Mathlib.Data.List.Nodup

/-!
# Methods of a shadow class

The getters of a shadow class and its reverse conversion have no parameters, so their names have to
be distinct. Under the default naming no getter is named like the reverse conversion, and two
getters have one name exactly if the names of their properties are equal once their first letters
are in upper case (`methodNames_nodup_iff`). A schema keeps the names apart and not the getters, so
`foo` and `Foo` may stand side by side (`not_methodNames_nodup_sharedGetter`); names that start with
a small letter of the Latin alphabet never clash (`methodNames_nodup_of_small`).
-/

namespace ValueShadow

open Text

/-- The names of the methods without parameters that a shadow class has. -/
def ShadowClass.methodNames (shadow : ShadowClass) : List String :=
  shadow.getters.map (·.name) ++ [shadow.reverseConversion.name]

/-- Two getters have one name exactly if the properties have one capitalised name. -/
theorem getterName_inj {property other : String} :
    getterName property = getterName other ↔ capitalize property = capitalize other := by
  simp [getterName]

/-- The capital of a small letter of the Latin alphabet is one letter. -/
theorem upper_small : ∀ i : Fin 26, upper (.ofNat (97 + i)) = [.ofNat (65 + i)] := by
  decide +kernel

/-- The small letters of the Latin alphabet by their number. -/
theorem exists_eq_small {c : Char} (h : c.isLower = true) :
    ∃ i : Fin 26, c = .ofNat (97 + i) := by
  have hbounds := Bool.and_eq_true_iff.1 h
  have hleast : 97 ≤ c.toNat := of_decide_eq_true hbounds.1
  have hgreatest : c.toNat ≤ 122 := of_decide_eq_true hbounds.2
  have hsum : 97 + (c.toNat - 97) = c.toNat := by omega
  exact ⟨⟨c.toNat - 97, by omega⟩, by simp [hsum]⟩

/-- Texts that start with a small letter of the Latin alphabet can be told from their capitalised
forms. -/
theorem capitalize_inj_of_small {text other : String}
    (hsmall : ∃ c ∈ text.toList.head?, c.isLower = true)
    (hother : ∃ c ∈ other.toList.head?, c.isLower = true)
    (h : capitalize text = capitalize other) : text = other := by
  obtain ⟨c, hc, hsmall⟩ := hsmall
  obtain ⟨d, hd, hother⟩ := hother
  obtain ⟨rest, htext⟩ := List.head?_eq_some_iff.1 hc
  obtain ⟨rest', htext'⟩ := List.head?_eq_some_iff.1 hd
  obtain ⟨i, rfl⟩ := exists_eq_small hsmall
  obtain ⟨j, rfl⟩ := exists_eq_small hother
  rw [capitalize, capitalize, htext, htext', String.ofList_inj, upper_small, upper_small,
    List.singleton_append, List.singleton_append, List.cons.injEq] at h
  obtain ⟨hcapital, rfl⟩ := h
  have hcapitals : ∀ i j : Fin 26, Char.ofNat (65 + i) = Char.ofNat (65 + j) → i = j := by
    decide +kernel
  rw [← String.toList_inj, htext, htext', hcapitals i j hcapital]

/-- No getter is named like the reverse conversion of the default naming. -/
theorem getterName_ne_reverseConversion (property : String) :
    getterName property ≠ ({} : Naming).reverseConversion := by
  intro heq
  have hhead : (getterName property).toList.head? = some 'g' := by simp [getterName]
  rw [heq] at hhead
  cases hhead

section
variable {naming : Naming} {value : ValueClass} {generated : GeneratedClass}

/-- The methods are the getters, one for each property, and the method that the naming gives. -/
theorem methodNames_eq (h : GeneratedClass.ofValue naming value = .ok generated) :
    generated.shadow.methodNames =
      (value.schema.properties.map fun property => getterName property.name) ++
        [naming.reverseConversion] := by
  obtain ⟨converted, hassembled⟩ := GeneratedClass.exists_assembled h
  obtain ⟨_, shadow, _, -, hshadow, -, rfl⟩ := GeneratedClass.ofValue_eq_ok.1 h
  obtain ⟨_, -, -, -, hreverse, -⟩ := ShadowClass.exists_name_of_ofShaped hshadow
  rw [ShadowClass.methodNames, hreverse, hassembled.getters, ← hassembled.properties, List.map_map,
    List.map_map]
  rfl

/-- The methods have distinct names exactly if the capitalised names of the properties are distinct
and none of them makes a getter that is named like the reverse conversion. -/
theorem nodup_methodNames_iff (h : GeneratedClass.ofValue naming value = .ok generated) :
    generated.shadow.methodNames.Nodup ↔
      (value.schema.properties.map fun property => capitalize property.name).Nodup ∧
        ∀ property ∈ value.schema.properties,
          getterName property.name ≠ naming.reverseConversion := by
  have hgetters : (value.schema.properties.map fun property => getterName property.name).Nodup ↔
      (value.schema.properties.map fun property => capitalize property.name).Nodup := by
    simp only [List.Nodup, List.pairwise_map, ne_eq, getterName_inj]
  rw [methodNames_eq h, List.nodup_append, hgetters]
  simp

/-- Under the default naming, the methods of the shadow class for an accepted list of properties
have distinct names exactly if no two of the properties have names that are equal once their first
letters are in upper case. -/
theorem methodNames_nodup_iff {properties : List Property}
    (haccepted : Schema.ofList properties = .ok value.schema)
    (h : GeneratedClass.ofValue {} value = .ok generated) :
    generated.shadow.methodNames.Nodup ↔
      properties.Pairwise fun property other =>
        capitalize property.name ≠ capitalize other.name := by
  rw [nodup_methodNames_iff h, Schema.ofList_eq_ok.1 haccepted, List.Nodup, List.pairwise_map]
  exact and_iff_left fun property _ => getterName_ne_reverseConversion property.name

/-- If all properties start with a small letter of the Latin alphabet, the methods have distinct
names under the default naming. -/
theorem methodNames_nodup_of_small (h : GeneratedClass.ofValue {} value = .ok generated)
    (hsmall : ∀ property ∈ value.schema.properties,
      ∃ c ∈ property.name.toList.head?, c.isLower = true) :
    generated.shadow.methodNames.Nodup := by
  refine (nodup_methodNames_iff h).2 ⟨?_, fun property _ => ?_⟩
  · have hnames : ((value.schema.properties.map Property.name).map capitalize).Nodup := by
      refine List.Nodup.map_on (fun name hname other hother => ?_) value.schema.distinct
      obtain ⟨property, hproperty, rfl⟩ := List.mem_map.1 hname
      obtain ⟨property', hproperty', rfl⟩ := List.mem_map.1 hother
      exact capitalize_inj_of_small (hsmall property hproperty) (hsmall property' hproperty')
    rwa [List.map_map] at hnames
  · exact getterName_ne_reverseConversion property.name

end

/-- Two properties whose names differ in more than the case of their first letters. -/
def distinctGetters : ValueClass where
  name := .ofClass "com.example" "Item"
  schema :=
    { properties := [⟨"foo", .primitive (.unboxed .int), none, []⟩,
        ⟨"fOO", .primitive .string, none, []⟩]
      spellable := by decide +kernel
      distinct := by decide }

/-- The getters of the two properties and the reverse conversion have distinct names. -/
theorem methodNames_nodup_iff_distinctGetters :
    Schema.ofList distinctGetters.schema.properties = .ok distinctGetters.schema ∧
      ∃ generated, GeneratedClass.ofValue {} distinctGetters = .ok generated ∧
        generated.shadow.methodNames = ["getFoo", "getFOO", "toAutoValue"] ∧
        generated.shadow.methodNames.Nodup := by
  have haccepted : Schema.ofList distinctGetters.schema.properties = .ok distinctGetters.schema :=
    Schema.ofList_eq_ok.2 rfl
  have hnames : (GeneratedClass.ofValue {} distinctGetters).toOption.map
      (fun generated => generated.shadow.methodNames) =
      some ["getFoo", "getFOO", "toAutoValue"] := by
    decide +kernel
  obtain ⟨generated, hgenerated, hnames⟩ := map_toOption_eq_some.1 hnames
  refine ⟨haccepted, generated, hgenerated, hnames, ?_⟩
  exact (methodNames_nodup_iff haccepted hgenerated).2 (by decide +kernel)

/-- Two properties whose names differ in the case of their first letters only. -/
def sharedGetter : ValueClass where
  name := .ofClass "com.example" "Item"
  schema :=
    { properties := [⟨"foo", .primitive (.unboxed .int), none, []⟩,
        ⟨"Foo", .primitive .string, none, []⟩]
      spellable := by decide +kernel
      distinct := by decide }

/-- The two properties are accepted and get two getters of one name. -/
theorem not_methodNames_nodup_sharedGetter :
    Schema.ofList sharedGetter.schema.properties = .ok sharedGetter.schema ∧
      ∃ generated, GeneratedClass.ofValue {} sharedGetter = .ok generated ∧
        generated.shadow.methodNames = ["getFoo", "getFoo", "toAutoValue"] ∧
        ¬ generated.shadow.methodNames.Nodup := by
  have hnames : (GeneratedClass.ofValue {} sharedGetter).toOption.map
      (fun generated => generated.shadow.methodNames) =
      some ["getFoo", "getFoo", "toAutoValue"] := by
    decide +kernel
  obtain ⟨generated, hgenerated, hnames⟩ := map_toOption_eq_some.1 hnames
  refine ⟨Schema.ofList_eq_ok.2 rfl, generated, hgenerated, hnames, ?_⟩
  rw [hnames]
  decide

end ValueShadow
