import ValueShadow.Proofs.ShadowClass.Assembly

/-!
# The class that the reverse conversion returns

References spell the derived class of a value class (`Naming.generatedClass`), and the reverse
conversion returns the class being generated without its chain markers. The two are one class
exactly if the derived simple name does not start with a chain marker
(`references_spell_returnType_iff`). A value class that asks for a name of its own cannot miss this,
since such a name has to have the derived class as its canonical name. The derived name is taken as
it is, so where the prefix starts with a chain marker, the method returns a class that nothing
generates (`not_references_spell_returnType_marked`).
-/

namespace ValueShadow

section
variable {naming : Naming} {value : ValueClass}

/-- The reverse conversion returns the class with the derived simple name without the markers in
front, whether the value class asks for a name of its own or not. -/
theorem ShadowClass.returnType_eq {shaped : List ShapedProperty} {shadow : ShadowClass}
    (h : ShadowClass.ofShaped naming value shaped = .ok shadow) :
    value.name.check = .ok () ∧ shadow.source = value.name ∧
      shadow.reverseConversion.returnType = .ofClass value.name.package
        (stripMarkers naming.chainMarker (naming.generatedSimpleName value.name)) := by
  obtain ⟨name, hname, -, hsource, -, hreturn⟩ := ShadowClass.exists_name_of_ofShaped h
  obtain ⟨expected, hexpected, hcanonical⟩ := Naming.classBeingGenerated_canonical hname
  obtain ⟨hcheck, rfl⟩ := Naming.generatedClass_eq_ok.1 hexpected
  exact ⟨hcheck, hsource, by rw [hreturn, hcanonical, Naming.canonical_ofClass]⟩

/-- The derived class of a value class that asks for a name of its own is canonical. -/
theorem head?_ne_of_ownName {name : QualifiedName} (h : naming.classBeingGenerated value = .ok name)
    (hown : value.generatedName ≠ none) :
    (naming.generatedSimpleName value.name).toList.head? ≠ some naming.chainMarker := by
  obtain ⟨-, ⟨hnone, -⟩ | ⟨simpleName, -, rfl, -, hcanonical⟩⟩ :=
    Naming.classBeingGenerated_eq_ok.1 h
  · exact absurd hnone hown
  · rw [← naming.canonical_ofClass_eq_self_iff value.name.package, ← hcanonical,
      naming.canonical_canonical]

/-- The class that the reverse conversion returns is the one that references to the value class
spell, and every conversion through the value class spells the shadow class inside it, exactly if
the derived simple name does not start with a chain marker; it does not where the value class asks
for a name of its own. -/
theorem references_spell_returnType_iff {shaped : List ShapedProperty} {shadow : ShadowClass}
    (h : ShadowClass.ofShaped naming value shaped = .ok shadow) :
    (naming.generatedClass shadow.source = .ok shadow.reverseConversion.returnType ↔
      (naming.generatedSimpleName value.name).toList.head? ≠ some naming.chainMarker) ∧
    (∀ other generated spelled, GeneratedClass.ofValue naming other = .ok generated →
      generated.Converts value.name spelled →
      (spelled = shadow.reverseConversion.returnType.nested naming.shadowSuffix ↔
        (naming.generatedSimpleName value.name).toList.head? ≠ some naming.chainMarker)) ∧
    (value.generatedName ≠ none →
      (naming.generatedSimpleName value.name).toList.head? ≠ some naming.chainMarker) := by
  obtain ⟨hcheck, hsource, hreturn⟩ := ShadowClass.returnType_eq h
  have hiff : QualifiedName.ofClass value.name.package (naming.generatedSimpleName value.name) =
      shadow.reverseConversion.returnType ↔
        (naming.generatedSimpleName value.name).toList.head? ≠ some naming.chainMarker := by
    rw [hreturn, ← naming.canonical_ofClass_eq_self_iff value.name.package,
      Naming.canonical_ofClass, eq_comm]
  refine ⟨?_, fun other generated spelled hother hconverts => ?_, fun hown => ?_⟩
  · rw [hsource, Naming.generatedClass_eq_ok, ← hiff, and_iff_right hcheck, eq_comm]
  · obtain ⟨converted, hassembled⟩ := GeneratedClass.exists_assembled hother
    obtain ⟨-, hname⟩ := hassembled.converts_iff.1 hconverts
    obtain ⟨derived, hderived, rfl⟩ := Naming.shadowName_eq_ok.1 hname
    obtain ⟨-, rfl⟩ := Naming.generatedClass_eq_ok.1 hderived
    rw [← hiff]
    exact ⟨QualifiedName.nested_inj, fun heq => by rw [heq]⟩
  · obtain ⟨name, hname, -⟩ := ShadowClass.exists_name_of_ofShaped h
    exact head?_ne_of_ownName hname hown

end

/-- An item without properties, which may ask for a name of its own. -/
def bareItem (generatedName : Option String) : ValueClass where
  name := .ofClass "com.example" "Item"
  generatedName := generatedName
  schema := .empty

/-- An order that refers to the item. -/
def itemOrder : ValueClass where
  name := .ofClass "com.example" "Order"
  schema :=
    { properties := [⟨"item", .valueRef (.ofClass "com.example" "Item"), none, []⟩]
      spellable := by decide +kernel
      distinct := by decide }

/-- The second stage of the item's chain returns the class whose shadow class the order spells. -/
theorem references_spell_returnType_iff_stage :
    ∃ shadow, ShadowClass.ofShaped {} (bareItem (some "$$AutoValue_Item")) [] = .ok shadow ∧
      Naming.generatedClass {} shadow.source = .ok shadow.reverseConversion.returnType ∧
      ∃ generated, GeneratedClass.ofValue {} itemOrder = .ok generated ∧
        generated.Converts (.ofClass "com.example" "Item")
          (shadow.reverseConversion.returnType.nested "FirebaseValue") := by
  have hshadow :
      (ShadowClass.ofShaped {} (bareItem (some "$$AutoValue_Item")) []).toOption.isSome := by
    decide +kernel
  obtain ⟨shadow, hshadow⟩ := Option.isSome_iff_exists.1 hshadow
  have hshadow := toOption_eq_some.1 hshadow
  have hgenerated : (GeneratedClass.ofValue {} itemOrder).toOption.map (fun generated =>
      decide (generated.Converts (.ofClass "com.example" "Item")
        ((QualifiedName.ofClass "com.example" "AutoValue_Item").nested "FirebaseValue"))) =
      some true := by
    decide +kernel
  obtain ⟨generated, hgenerated, hconverts⟩ := map_toOption_eq_some.1 hgenerated
  have hconverts := of_decide_eq_true hconverts
  obtain ⟨hreturn, hspelled, hown⟩ := references_spell_returnType_iff hshadow
  have hcanonical := hown (by simp [bareItem])
  refine ⟨shadow, hshadow, hreturn.2 hcanonical, generated, hgenerated, ?_⟩
  rwa [(hspelled itemOrder generated _ hgenerated hconverts).2 hcanonical] at hconverts

/-- A naming whose prefix starts with the chain marker. -/
def markedNaming : Naming where
  generatedPrefix := "$AV_"

/-- With a prefix that starts with the chain marker, the item's shadow class returns a class that is
not the one generated for the item. -/
theorem not_references_spell_returnType_marked :
    (bareItem none).schema.shaped.toOption.map List.length = some 0 ∧
      ∃ shadow, ShadowClass.ofShaped markedNaming (bareItem none) [] = .ok shadow ∧
        shadow.source = (bareItem none).name ∧
        shadow.reverseConversion.returnType = .ofClass "com.example" "AV_Item" ∧
        markedNaming.generatedClass shadow.source = .ok (.ofClass "com.example" "$AV_Item") ∧
        markedNaming.generatedClass shadow.source ≠ .ok shadow.reverseConversion.returnType := by
  refine ⟨rfl, ?_⟩
  have hshadow : (ShadowClass.ofShaped markedNaming (bareItem none) []).toOption.map (fun shadow =>
      (shadow.source, shadow.reverseConversion.returnType,
        (markedNaming.generatedClass shadow.source).toOption)) =
      some (.ofClass "com.example" "Item", .ofClass "com.example" "AV_Item",
        some (.ofClass "com.example" "$AV_Item")) := by
    decide +kernel
  obtain ⟨shadow, hshadow, hfacts⟩ := map_toOption_eq_some.1 hshadow
  obtain ⟨hsource, hreturn, hgenerated⟩ := by simpa using hfacts
  have hgenerated := toOption_eq_some.1 hgenerated
  refine ⟨shadow, hshadow, hsource, hreturn, hgenerated, ?_⟩
  rw [hgenerated, hreturn]
  exact fun heq => absurd (Except.ok.inj heq) (by decide)

end ValueShadow
