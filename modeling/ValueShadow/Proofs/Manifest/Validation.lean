import ValueShadow.Proofs.Manifest.Accounting
import ValueShadow.Proofs.Manifest.Entries
import ValueShadow.Proofs.Naming
import ValueShadow.Proofs.PropertyType.Parser

/-!
# Validation and the catalog

`Manifest.problem?` judges the texts of a manifest before the catalog is built from them, by rules
of its own. The two agree: for a property with a type, nothing is wrong exactly if it can be
spelled, apart from a getter that cannot be overridden
(`PropertyEntry.problem?_eq_none_iff_spellable`), and a text that is blank is no type
(`isBlank_eq_false_of_parse`). So a manifest that is accepted has distinct value classes, and few
ways are left for an entry to fail (`ValueEntry.toValueClass_error_cases`); an entry with a property
that is refused describes no value class (`ValueEntry.problem?_eq_none_of_toValueClass`).
-/

namespace ValueShadow

/-! ## Properties -/

/-- A text that is read as a type is not blank. -/
theorem PropertyType.isBlank_eq_false_of_parse {package text : String} {type : PropertyType}
    (h : parse package text = .ok type) : Text.isBlank text = false := by
  obtain ⟨tokens, hspells, hread⟩ := parse_eq_ok_iff.1 h
  by_contra hblank
  have hnone := Token.spells_of_isBlank (List.all_eq_true.1 (Bool.of_not_eq_false hblank))
  cases (Token.scan_eq_ok_iff.2 hspells).symm.trans (Token.scan_eq_ok_iff.2 hnone)
  cases hread

/-- Nothing is wrong with a property exactly if its name is an identifier, its accessor too if there
is one, and its type is not blank. -/
theorem PropertyEntry.problem?_eq_none_iff {entry : PropertyEntry} {value : String} :
    entry.problem? value = none ↔
      isIdentifier entry.name = true ∧ (∀ method ∈ entry.accessor, isIdentifier method = true) ∧
        Text.isBlank entry.type = false := by
  rw [← filter_accessor_eq_none_iff, problem?]
  by_cases hname : isIdentifier entry.name = true
  · have hne : entry.name.isEmpty = false := by simpa using ne_empty_of_isIdentifier hname
    cases entry.accessor.filter fun method => !isIdentifier method with
    | some method => simp [hname, hne]
    | none => simp [hname, hne]
  · refine iff_of_false ?_ (fun h => hname h.1)
    split_ifs with hempty <;> simp_all

/-- A property can be spelled, apart from its getter, exactly if its name is an identifier and its
accessor too if there is one. -/
theorem Property.problem?_eq_none_or_finalGetter_iff {property : Property} :
    property.problem? = none ∨ property.problem? = some .finalGetter ↔
      isIdentifier property.name = true ∧
        ∀ method ∈ property.ownAccessor, isIdentifier method = true := by
  rw [← filter_accessor_eq_none_iff, problem?]
  by_cases hname : isIdentifier property.name = true
  · cases property.ownAccessor.filter fun method => !isIdentifier method with
    | some method => simp [hname]
    | none =>
      simp [hname]
      tauto
  · simp [hname]

/-- The getter that is refused is named like the method that cannot be overridden. -/
theorem Property.getterName_of_finalGetter {property : Property}
    (h : property.problem? = some .finalGetter) : getterName property.name = "getClass" := by
  unfold problem? at h
  split at h
  · cases h
  · split at h
    · cases h
    · split at h
      · next hgetter => exact hgetter
      · cases h

/-- Where a property has a type, nothing is wrong with it exactly if it can be spelled, apart from
its getter. -/
theorem PropertyEntry.problem?_eq_none_iff_spellable {entry : PropertyEntry}
    {package value : String} {property : Property} (h : entry.toProperty package = .ok property) :
    entry.problem? value = none ↔
      property.problem? = none ∨ property.problem? = some .finalGetter := by
  obtain ⟨type, htype, rfl⟩ := toProperty_eq_ok.1 h
  rw [problem?_eq_none_iff, Property.problem?_eq_none_or_finalGetter_iff,
    PropertyType.isBlank_eq_false_of_parse htype]
  simp

/-! ## Entries -/

section
variable {entry : ValueEntry}

/-- Nothing is wrong with the properties of an entry that describes a value class. -/
theorem ValueEntry.problem?_eq_none_of_toValueClass {value : ValueClass}
    (h : entry.toValueClass = .ok value) {described : PropertyEntry}
    (hdescribed : described ∈ entry.properties) : described.problem? entry.name = none := by
  obtain ⟨property, hproperty, hread⟩ :=
    exists_mem_of_forall₂ (forall₂_toProperty h).flip hdescribed
  rw [PropertyEntry.problem?_eq_none_iff_spellable hread]
  exact .inl (value.schema.spellable property hproperty)

/-- An entry with properties that nothing is wrong with describes no value class only if one of its
properties has no type, repeats a name or has a getter that cannot be overridden. -/
theorem ValueEntry.toValueClass_error_cases
    (hvalid : ∀ described ∈ entry.properties, described.problem? entry.name = none)
    {e : ShadowError} (h : entry.toValueClass = .error e) :
    ∃ described ∈ entry.properties,
      (∃ problem, e = .typeSyntax described.type problem) ∨
        e = .duplicateProperty described.name ∨
        (e = .invalidProperty described.name .finalGetter ∧
          getterName described.name = "getClass") := by
  rcases toValueClass_eq_error.1 h with herror | ⟨properties, hproperties, herror⟩
  · obtain ⟨described, hfirst, herror⟩ := mapM_eq_error.1 herror
    obtain ⟨problem, -, rfl⟩ := PropertyEntry.toProperty_eq_error.1 herror
    exact ⟨described, hfirst.mem, .inl ⟨problem, rfl⟩⟩
  · obtain ⟨before, property, after, pushed, hsplit, -, herror⟩ := Schema.ofList_eq_error.1 herror
    obtain ⟨described, hdescribed, hread⟩ :=
      exists_mem_of_forall₂ (mapM_eq_ok.1 hproperties) (b := property) (by simp [hsplit])
    obtain ⟨type, -, hproperty⟩ := PropertyEntry.toProperty_eq_ok.1 hread
    have hname : property.name = described.name := by rw [← hproperty]
    refine ⟨described, hdescribed, .inr ?_⟩
    rcases Schema.push_eq_error.1 herror with ⟨problem, hproblem, rfl⟩ | ⟨-, -, rfl⟩
    · have hspellable :=
        (PropertyEntry.problem?_eq_none_iff_spellable hread).1 (hvalid described hdescribed)
      rw [hproblem] at hspellable
      obtain rfl : problem = .finalGetter := by simpa using hspellable
      rw [← hname]
      exact .inr ⟨rfl, Property.getterName_of_finalGetter hproblem⟩
    · exact .inl (by rw [hname])

/-- The problem is one of a property of a value class. -/
def ManifestProblem.IsOfProperty : ManifestProblem → Prop
  | .unnamedProperty _ | .propertyName .. | .accessor .. | .untypedProperty .. => True
  | .unnamedValue | .repeatedValue _ | .unnamedMarker => False

/-- A problem of a property that is found in an entry is one of its properties. -/
theorem ValueEntry.exists_property_of_problem? {earlier : List String} {problem : ManifestProblem}
    (h : entry.problem? earlier = some problem) (hproperty : problem.IsOfProperty) :
    ∃ described ∈ entry.properties, described.problem? entry.name = some problem := by
  unfold problem? at h
  split_ifs at h
  · cases h
    cases hproperty
  · cases h
    cases hproperty
  · exact List.exists_of_findSome?_eq_some h

/-- Nothing is wrong with an entry exactly if it has a name that no earlier entry has, and nothing
is wrong with its properties. -/
theorem ValueEntry.problem?_eq_none_iff {earlier : List String} :
    entry.problem? earlier = none ↔
      entry.name ≠ "" ∧ entry.name ∉ earlier ∧
        ∀ described ∈ entry.properties, described.problem? entry.name = none := by
  unfold problem?
  split_ifs with hempty hearlier
  · simp_all
  · simp_all
  · simp_all

end

/-! ## Manifests -/

section
variable {earlier : List String} {entries : List ValueEntry}

/-- Nothing is wrong with entries exactly if they have distinct names, which no earlier entry has,
and nothing is wrong with their properties. -/
theorem firstProblem?_eq_none_iff :
    firstProblem? earlier entries = none ↔
      (entries.map (·.name)).Nodup ∧
        ∀ entry ∈ entries, entry.name ≠ "" ∧ entry.name ∉ earlier ∧
          ∀ described ∈ entry.properties, described.problem? entry.name = none := by
  induction entries generalizing earlier with
  | nil => simp [firstProblem?]
  | cons entry entries ih =>
    rw [firstProblem?, List.map_cons, List.nodup_cons, List.forall_mem_cons,
      ← ValueEntry.problem?_eq_none_iff]
    cases entry.problem? earlier with
    | some problem => simp
    | none =>
      simp only [ih, List.mem_cons, not_or, true_and]
      constructor
      · rintro ⟨hdistinct, h⟩
        refine ⟨⟨fun hmem => ?_, hdistinct⟩, fun other hother => ?_⟩
        · obtain ⟨other, hother, hname⟩ := List.mem_map.1 hmem
          exact (h other hother).2.1.1 hname
        · obtain ⟨hname, ⟨-, hearlier⟩, hproperties⟩ := h other hother
          exact ⟨hname, hearlier, hproperties⟩
      · rintro ⟨⟨hfresh, hdistinct⟩, h⟩
        refine ⟨hdistinct, fun other hother => ?_⟩
        obtain ⟨hname, hearlier, hproperties⟩ := h other hother
        refine ⟨hname, ⟨fun hsame => hfresh ?_, hearlier⟩, hproperties⟩
        exact hsame ▸ List.mem_map_of_mem hother

/-- What is wrong with entries is wrong with the first one that something is wrong with, after those
before it. -/
theorem exists_of_firstProblem? {problem : ManifestProblem}
    (h : firstProblem? earlier entries = some problem) :
    ∃ before entry after, entries = before ++ entry :: after ∧
      firstProblem? earlier before = none ∧
      entry.problem? ((before.map (·.name)).reverse ++ earlier) = some problem := by
  induction entries generalizing earlier with
  | nil => cases h
  | cons entry entries ih =>
    rw [firstProblem?] at h
    split at h
    · next found hfound =>
      cases h
      exact ⟨[], entry, entries, rfl, rfl, hfound⟩
    · next hnone =>
      obtain ⟨before, failing, after, rfl, hbefore, hproblem⟩ := ih h
      refine ⟨entry :: before, failing, after, rfl, ?_, by simpa using hproblem⟩
      rw [firstProblem?, hnone, hbefore]

end

/-- The names of the value classes of a catalog are among those of its entries, in their order. -/
theorem Catalog.names_sublist (entries : List ValueEntry) :
    ((ofEntries entries).values.map (·.name)).Sublist
      (entries.map (QualifiedName.ofDotted ∘ ValueEntry.name)) := by
  induction entries with
  | nil => exact .slnil
  | cons entry entries ih =>
    rw [ofEntries, List.map_cons]
    cases hbuilt : entry.toValueClass with
    | ok value =>
      have hname : value.name = _ := (ValueEntry.toValueClass_eq_ok hbuilt).1
      rw [List.map_cons, hname]
      exact ih.cons_cons _
    | error error => exact ih.cons _

namespace Manifest

variable {manifest : Manifest}

/-- Nothing is wrong with a manifest exactly if its entries have distinct names, which are not
empty, nothing is wrong with their properties, and the annotation that asks for generation has a
name. -/
theorem problem?_eq_none_iff :
    manifest.problem? = none ↔
      manifest.settings.marker ≠ "" ∧ (manifest.values.map (·.name)).Nodup ∧
        ∀ entry ∈ manifest.values, entry.name ≠ "" ∧
          ∀ described ∈ entry.properties, described.problem? entry.name = none := by
  have hentries := @firstProblem?_eq_none_iff [] manifest.values
  simp only [List.not_mem_nil, not_false_eq_true, true_and] at hentries
  rw [← hentries, problem?]
  split
  · next problem hproblem => simp [hproblem]
  · next hnone => simp [hnone]

/-- A problem of a property that is found in a manifest is found in its entries. -/
theorem firstProblem?_of_problem? {problem : ManifestProblem}
    (h : manifest.problem? = some problem) (hproperty : problem.IsOfProperty) :
    firstProblem? [] manifest.values = some problem := by
  unfold problem? at h
  split at h
  · next found hfound => rw [hfound, h]
  · split_ifs at h
    cases h
    cases hproperty

/-- Entries of distinct names describe value classes of distinct names. -/
theorem nodup_catalog (h : (manifest.values.map (·.name)).Nodup) :
    (manifest.catalog.values.map (·.name)).Nodup := by
  have hnames : ((manifest.values.map (·.name)).map QualifiedName.ofDotted).Nodup :=
    h.map fun _ _ => QualifiedName.ofDotted_inj.1
  rw [List.map_map] at hnames
  exact hnames.sublist (Catalog.names_sublist manifest.values)

/-- Validation and the catalog agree. Nothing is wrong with a manifest exactly if its entries have
distinct names, which are not empty, nothing is wrong with their properties, and the annotation that
asks for generation has a name. Then its value classes have distinct names, and an entry describes
none only because a property has a type that cannot be read, the name of another property or a
getter that cannot be overridden. If a property is what is wrong with a manifest, the first entry
with such a property describes no value class. Nothing is wrong with the properties of an entry that
describes one, and where a property has a type, nothing is wrong with it exactly if it can be
spelled, apart from its getter. -/
theorem validation_agrees (manifest : Manifest) :
    (manifest.problem? = none ↔
      manifest.settings.marker ≠ "" ∧ (manifest.values.map (·.name)).Nodup ∧
        ∀ entry ∈ manifest.values, entry.name ≠ "" ∧
          ∀ described ∈ entry.properties, described.problem? entry.name = none) ∧
    (manifest.problem? = none →
      (manifest.catalog.values.map (·.name)).Nodup ∧
      ∀ entry ∈ manifest.values, ∀ error, entry.toValueClass = .error error →
        ∃ described ∈ entry.properties,
          (∃ problem, error = .typeSyntax described.type problem) ∨
            error = .duplicateProperty described.name ∨
            (error = .invalidProperty described.name .finalGetter ∧
              getterName described.name = "getClass")) ∧
    (∀ problem, manifest.problem? = some problem → problem.IsOfProperty →
      ∃ before entry after, manifest.values = before ++ entry :: after ∧
        firstProblem? [] before = none ∧
        (∃ described ∈ entry.properties, described.problem? entry.name = some problem) ∧
        ∃ error, entry.toValueClass = .error error) ∧
    (∀ (entry : ValueEntry) (value : ValueClass), entry.toValueClass = .ok value →
      ∀ described ∈ entry.properties, described.problem? entry.name = none) ∧
    ∀ (described : PropertyEntry) (package value : String) (property : Property),
      described.toProperty package = .ok property →
        (described.problem? value = none ↔
          property.problem? = none ∨ property.problem? = some .finalGetter) := by
  refine ⟨problem?_eq_none_iff, fun hnone => ?_, fun problem hproblem hproperty => ?_,
    fun entry value hbuilt described => ValueEntry.problem?_eq_none_of_toValueClass hbuilt,
    fun described package value property => PropertyEntry.problem?_eq_none_iff_spellable⟩
  · obtain ⟨-, hdistinct, hentries⟩ := problem?_eq_none_iff.1 hnone
    exact ⟨nodup_catalog hdistinct, fun entry hentry error =>
      ValueEntry.toValueClass_error_cases (hentries entry hentry).2⟩
  · obtain ⟨before, entry, after, hsplit, hbefore, hentry⟩ :=
      exists_of_firstProblem? (firstProblem?_of_problem? hproblem hproperty)
    obtain ⟨described, hdescribed, hwrong⟩ :=
      ValueEntry.exists_property_of_problem? hentry hproperty
    refine ⟨before, entry, after, hsplit, hbefore, ⟨described, hdescribed, hwrong⟩, ?_⟩
    cases hbuilt : entry.toValueClass with
    | error error => exact ⟨error, rfl⟩
    | ok value =>
      cases (ValueEntry.problem?_eq_none_of_toValueClass hbuilt hdescribed).symm.trans hwrong

/-- A pupil with a class, whose getter cannot be overridden, a course with one property twice, and a
teacher with nothing wrong. -/
def lessons : Manifest :=
  ⟨{}, [
    ⟨"school.Pupil", none, none, true, [], [⟨"Class", "String", none, []⟩]⟩,
    ⟨"school.Course", none, none, true, [],
      [⟨"room", "int", none, []⟩, ⟨"room", "int", none, []⟩]⟩,
    ⟨"school.Teacher", none, none, true, [], [⟨"rooms", "List<Integer>", some "allRooms", []⟩]⟩]⟩

/-- A course with a property whose type is blank. -/
def untypedLesson : Manifest :=
  ⟨{}, [⟨"school.Course", none, none, true, [], [⟨"room", " \t", none, []⟩]⟩]⟩

/-- Validation accepts the lessons, though two of the entries describe no value class. The course is
refused for a property, and describes no value class either. -/
theorem validation_agrees_lessons :
    (lessons.catalog.values.map (·.name)).Nodup ∧
      lessons.catalog.failures.map (fun failure => (failure.name, failure.error.message)) =
        [("school.Pupil", (ShadowError.invalidProperty "Class" .finalGetter).message),
          ("school.Course", (ShadowError.duplicateProperty "room").message)] ∧
      untypedLesson.problem? = some (.untypedProperty "school.Course" "room") ∧
      ∃ entry ∈ untypedLesson.values, ∃ error, entry.toValueClass = .error error := by
  have hrefused : untypedLesson.problem? = some (.untypedProperty "school.Course" "room") := by
    decide +kernel
  obtain ⟨hdistinct, -⟩ := (validation_agrees lessons).2.1 (by decide +kernel)
  obtain ⟨before, entry, after, hsplit, -, -, herror⟩ :=
    (validation_agrees untypedLesson).2.2.1 _ hrefused trivial
  exact ⟨hdistinct, by decide +kernel, hrefused, entry, by simp [hsplit], herror⟩

end Manifest

end ValueShadow
