import ValueShadow.Manifest.Basic
import ValueShadow.Proofs.Schema

/-!
# What an entry describes

A property of an entry has the type that its text is read as (`PropertyEntry.toProperty_eq_ok`) or
none (`PropertyEntry.toProperty_eq_error`). An entry describes a value class if each of its
properties has a type and all of them together make a schema
(`ValueEntry.forall₂_toProperty`, `ValueEntry.toValueClass_eq_error`).
-/

namespace ValueShadow

/-- The property that an entry describes has the type that its text is read as. -/
theorem PropertyEntry.toProperty_eq_ok {entry : PropertyEntry} {package : String}
    {property : Property} :
    entry.toProperty package = .ok property ↔
      ∃ type, PropertyType.parse package entry.type = .ok type ∧
        ⟨entry.name, type, entry.accessor, entry.annotations⟩ = property := by
  rw [toProperty]
  cases PropertyType.parse package entry.type with
  | error problem => simp
  | ok type => simp

/-- An entry describes no property if its text is not read as a type. -/
theorem PropertyEntry.toProperty_eq_error {entry : PropertyEntry} {package : String}
    {e : ShadowError} :
    entry.toProperty package = .error e ↔
      ∃ problem, PropertyType.parse package entry.type = .error problem ∧
        .typeSyntax entry.type problem = e := by
  rw [toProperty]
  cases PropertyType.parse package entry.type with
  | error problem => simp
  | ok type => simp

section
variable {entry : ValueEntry}

/-- The properties of the value class that an entry describes are those that its properties
describe, in their order. -/
theorem ValueEntry.forall₂_toProperty {value : ValueClass} (h : entry.toValueClass = .ok value) :
    List.Forall₂
      (fun described property =>
        described.toProperty (QualifiedName.ofDotted entry.name).package = .ok property)
      entry.properties value.schema.properties := by
  obtain ⟨properties, hproperties, h⟩ := bind_eq_ok.1 h
  obtain ⟨schema, hschema, h⟩ := bind_eq_ok.1 h
  cases h
  rw [Schema.ofList_eq_ok.1 hschema]
  exact mapM_eq_ok.1 hproperties

/-- An entry describes no value class if one of its properties has no type or the properties make no
schema. -/
theorem ValueEntry.toValueClass_eq_error {e : ShadowError} :
    entry.toValueClass = .error e ↔
      entry.properties.mapM (·.toProperty (QualifiedName.ofDotted entry.name).package) = .error e ∨
        ∃ properties,
          entry.properties.mapM (·.toProperty (QualifiedName.ofDotted entry.name).package) =
            .ok properties ∧
          Schema.ofList properties = .error e := by
  rw [toValueClass]
  simp only [bind_eq_error]
  refine or_congr_right (exists_congr fun properties => and_congr_right fun _ => ?_)
  simp [pure, Except.pure]

end

end ValueShadow
