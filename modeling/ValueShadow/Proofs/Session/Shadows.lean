import ValueShadow.Proofs.Session.Ownership

/-!
# When two value classes share a shadow class

A shadow class that a conversion goes through is named by its value class alone, whether a unit
claims that name or not. Claims keep the shadow classes of the entries of a successful run apart
(`eq_of_shadow_eq`). Nothing keeps the references outside the catalog apart, neither from each other
nor from the entries: there two value classes share a shadow class exactly if they are in one
package and have one name once their simple names are joined (`shadow_eq_iff`).
-/

namespace ValueShadow

/-- Conversions through different value classes, anywhere in the units, go through different shadow
classes. -/
def Report.ShadowsApart (report : Report) : Prop :=
  ∀ unit ∈ report.units, ∀ other ∈ report.units, ∀ value value' shadow shadow',
    unit.Converts value shadow → other.Converts value' shadow' → value ≠ value' →
      shadow ≠ shadow'

namespace Session

section
variable {session : Session} {unit other : GeneratedClass}

/-- The units of a run convert through their references. -/
theorem converts_iff (hunit : unit ∈ session.run.units) {reference shadow : QualifiedName} :
    unit.Converts reference shadow ↔
      reference ∈ unit.references ∧
        session.settings.naming.shadowName reference = .ok shadow := by
  obtain ⟨_, -, -, _, hassembled⟩ := exists_assembled hunit
  exact hassembled.converts_iff

/-- Every reference of a unit has a shadow class that the unit converts it through. -/
theorem exists_converts (hunit : unit ∈ session.run.units) {reference : QualifiedName}
    (hreference : reference ∈ unit.references) : ∃ shadow, unit.Converts reference shadow := by
  obtain ⟨_, -, -, _, hassembled⟩ := exists_assembled hunit
  obtain ⟨c, hc, hvalue⟩ := hassembled.mem_references.1 hreference
  obtain ⟨shadow, hname, -⟩ := (hassembled.crosses c hc).shadowName hvalue
  exact ⟨shadow, (converts_iff hunit).2 ⟨hreference, hname⟩⟩

/-- In a run without failures, two entries of the catalog that conversions go through do not share
a shadow class. -/
theorem eq_of_shadow_eq (hsuccess : session.run.isSuccess = true)
    (hunit : unit ∈ session.run.units) (hother : other ∈ session.run.units)
    {value value' shadow : QualifiedName} (hconverts : unit.Converts value shadow)
    (hconverts' : other.Converts value' shadow) (hfind : (session.find? value).isSome)
    (hfind' : (session.find? value').isSome) : value = value' := by
  obtain ⟨hreference, hname⟩ := (converts_iff hunit).1 hconverts
  obtain ⟨hreference', hname'⟩ := (converts_iff hother).1 hconverts'
  obtain ⟨owner, howner, rfl⟩ := exists_unit_of_reference hsuccess hunit hreference hfind
  obtain ⟨owner', howner', rfl⟩ := exists_unit_of_reference hsuccess hother hreference' hfind'
  rw [eq_of_shadowName_eq howner howner' hname hname']

/-- In a run without failures, two conversions share a shadow class exactly if they go through one
value class, or one of the two is outside the catalog and they are in one package and have one name
once their simple names are joined. -/
theorem shadow_eq_iff (hsuccess : session.run.isSuccess = true)
    (hunit : unit ∈ session.run.units) (hother : other ∈ session.run.units)
    {value value' shadow shadow' : QualifiedName} (hconverts : unit.Converts value shadow)
    (hconverts' : other.Converts value' shadow') :
    shadow = shadow' ↔
      value = value' ∨
        (session.find? value = none ∨ session.find? value' = none) ∧
          value.package = value'.package ∧
          Text.joined '_' value.simpleNames = Text.joined '_' value'.simpleNames := by
  have hname := ((converts_iff hunit).1 hconverts).2
  have hname' := ((converts_iff hother).1 hconverts').2
  rw [Naming.shadowName_inj hname hname']
  constructor
  · intro halike
    obtain rfl := (Naming.shadowName_inj hname hname').2 halike
    by_cases hfind : (session.find? value).isSome ∧ (session.find? value').isSome
    · exact .inl (eq_of_shadow_eq hsuccess hunit hother hconverts hconverts' hfind.1 hfind.2)
    · rw [not_and_or, Option.not_isSome_iff_eq_none, Option.not_isSome_iff_eq_none] at hfind
      exact .inr ⟨hfind, halike⟩
  · rintro (rfl | ⟨-, halike⟩)
    · exact ⟨rfl, rfl⟩
    · exact halike

/-- In a run without failures, different value classes have different shadow classes in all
conversions exactly if no reference outside the catalog is, once its simple names are joined, named
like another reference of its package. -/
theorem shadowsApart_iff (session : Session) (hsuccess : session.run.isSuccess = true) :
    session.run.ShadowsApart ↔
      ∀ unit ∈ session.run.units, ∀ reference ∈ unit.references,
        session.find? reference = none →
        ∀ other ∈ session.run.units, ∀ reference' ∈ other.references,
          reference ≠ reference' → reference.package = reference'.package →
          Text.joined '_' reference.simpleNames ≠ Text.joined '_' reference'.simpleNames := by
  constructor
  · intro hapart unit hunit reference hreference hnone other hother reference' hreference' hne
      hpackage hjoined
    obtain ⟨shadow, hconverts⟩ := exists_converts hunit hreference
    obtain ⟨shadow', hconverts'⟩ := exists_converts hother hreference'
    have hshared := (shadow_eq_iff hsuccess hunit hother hconverts hconverts').2
      (.inr ⟨.inl hnone, hpackage, hjoined⟩)
    exact hapart unit hunit other hother reference reference' shadow shadow' hconverts hconverts'
      hne hshared
  · intro hjoined unit hunit other hother value value' shadow shadow' hconverts hconverts' hne
      hshared
    have hreference := ((converts_iff hunit).1 hconverts).1
    have hreference' := ((converts_iff hother).1 hconverts').1
    rcases (shadow_eq_iff hsuccess hunit hother hconverts hconverts').1 hshared with
      heq | ⟨hnone | hnone, hpackage, halike⟩
    · exact hne heq
    · exact hjoined unit hunit value hreference hnone other hother value' hreference' hne hpackage
        halike
    · exact hjoined other hother value' hreference' hnone unit hunit value hreference hne.symm
        hpackage.symm halike.symm

end

/-- An order that refers to a class inside `Outer` and to a user, both outside the catalog. -/
def strangers : Session :=
  ⟨{}, [markedClass (.ofClass "com.example" "Order")
    { properties := [
        ⟨"part", .valueRef innerClass, none, []⟩,
        ⟨"owner", .collection .list (.valueRef (.ofClass "com.example" "User")), none, []⟩]
      spellable := by decide +kernel
      distinct := by decide }]⟩

/-- The two references of the order have different shadow classes. -/
theorem shadowsApart_strangers :
    strangers.run.isSuccess = true ∧ strangers.run.units.length = 1 ∧
      strangers.run.ShadowsApart := by
  have hsuccess : strangers.run.isSuccess = true := by decide +kernel
  have hjoined : ∀ unit ∈ strangers.run.units, ∀ reference ∈ unit.references,
      ∀ other ∈ strangers.run.units, ∀ reference' ∈ other.references,
        reference ≠ reference' → reference.package = reference'.package →
        Text.joined '_' reference.simpleNames ≠ Text.joined '_' reference'.simpleNames := by
    decide +kernel
  refine ⟨hsuccess, by decide +kernel, (shadowsApart_iff strangers hsuccess).2 ?_⟩
  exact fun unit hunit reference hreference _ => hjoined unit hunit reference hreference

/-- An order that refers to a class inside `Outer` and to a class that is named like it once the
names are joined, both outside the catalog. -/
def strangersAlike : Session :=
  ⟨{}, [markedClass (.ofClass "com.example" "Order")
    { properties := [
        ⟨"part", .valueRef innerClass, none, []⟩,
        ⟨"owner", .valueRef joinedClass, none, []⟩]
      spellable := by decide +kernel
      distinct := by decide }]⟩

/-- Two value classes outside the catalog share a shadow class although nothing failed. -/
theorem not_shadowsApart_strangersAlike :
    strangersAlike.run.isSuccess = true ∧ ¬ strangersAlike.run.ShadowsApart := by
  refine ⟨by decide +kernel, fun hapart => ?_⟩
  have hshared : ∃ unit ∈ strangersAlike.run.units,
      unit.Converts innerClass
        ((QualifiedName.ofClass "com.example" "AutoValue_Outer_Inner").nested "FirebaseValue") ∧
      unit.Converts joinedClass
        ((QualifiedName.ofClass "com.example" "AutoValue_Outer_Inner").nested "FirebaseValue") := by
    decide +kernel
  obtain ⟨unit, hunit, hinner, htop⟩ := hshared
  exact hapart unit hunit unit hunit _ _ _ _ hinner htop (by decide) rfl

end Session

end ValueShadow
