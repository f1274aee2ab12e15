import ValueShadow.Proofs.Files.Generation
import ValueShadow.Proofs.QualifiedName
import ValueShadow.Proofs.Session.Worklist

/-!
# Every entry is accounted for

An entry of a manifest is a value class of the catalog or a failure of it, in the order of the
manifest (`Catalog.values_ofEntries`, `Catalog.failures_ofEntries`). A marked value class has its
turn in the session, where it becomes a unit or a failure (`Manifest.mem_names_of_marked`). The
names of entries are told from their classes, since what is read of a name displays as the name. So
how often an entry is reported can be counted by its name (`Manifest.count_failures`), and a marked
one is accounted for exactly once (`Manifest.every_entry_accounted`).
-/

namespace ValueShadow

/-- The failure of an entry that is no value class. -/
def ValueEntry.failure? (entry : ValueEntry) : Option EntryFailure :=
  match entry.toValueClass with
  | .ok _ => none
  | .error error => some ⟨entry.name, error⟩

/-- A value class that an entry describes has the name and the annotations of the entry. -/
theorem ValueEntry.toValueClass_eq_ok {entry : ValueEntry} {value : ValueClass}
    (h : entry.toValueClass = .ok value) :
    value.name = .ofDotted entry.name ∧ value.annotations = entry.annotations := by
  obtain ⟨properties, -, h⟩ := bind_eq_ok.1 h
  obtain ⟨schema, -, h⟩ := bind_eq_ok.1 h
  cases h
  exact ⟨rfl, rfl⟩

namespace Catalog

/-- The value classes of a catalog are those of its entries, in their order. -/
theorem values_ofEntries (entries : List ValueEntry) :
    (ofEntries entries).values = entries.filterMap fun entry => entry.toValueClass.toOption := by
  induction entries with
  | nil => rfl
  | cons entry entries ih =>
    rw [ofEntries, List.filterMap_cons]
    cases entry.toValueClass with
    | ok value => exact congrArg (value :: ·) ih
    | error error => exact ih

/-- The failures of a catalog are those of its entries, in their order. -/
theorem failures_ofEntries (entries : List ValueEntry) :
    (ofEntries entries).failures = entries.filterMap ValueEntry.failure? := by
  induction entries with
  | nil => rfl
  | cons entry entries ih =>
    rw [ofEntries, List.filterMap_cons, ValueEntry.failure?]
    cases entry.toValueClass with
    | ok value => exact ih
    | error error => exact congrArg (_ :: ·) ih

end Catalog

namespace Manifest

variable {manifest : Manifest} {entry : ValueEntry} {directory : String} {format : OutputFormat}

/-- Every name in the report of the session is that of an entry that is a value class. -/
theorem exists_entry_of_mem_names {name : QualifiedName}
    (h : name ∈ manifest.session.run.names) :
    ∃ entry ∈ manifest.values, name = .ofDotted entry.name ∧ entry.failure? = none := by
  have hcatalog : ∃ value ∈ manifest.session.catalog, value.name = name := by
    rcases List.mem_append.1 h with h | h
    · obtain ⟨unit, hunit, rfl⟩ := List.mem_map.1 h
      obtain ⟨value, hvalue, hname, -⟩ := manifest.session.sound_final.units unit hunit
      exact ⟨value, hvalue, hname⟩
    · obtain ⟨failure, hfailure, rfl⟩ := List.mem_map.1 h
      exact manifest.session.sound_final.failures failure hfailure
  obtain ⟨value, hvalue, rfl⟩ := hcatalog
  rw [session, catalog, Catalog.values_ofEntries] at hvalue
  obtain ⟨entry, hentry, hok⟩ := List.mem_filterMap.1 hvalue
  have hok := toOption_eq_some.1 hok
  refine ⟨entry, hentry, (ValueEntry.toValueClass_eq_ok hok).1, ?_⟩
  rw [ValueEntry.failure?, hok]

/-- A marked entry that is a value class has its turn. -/
theorem mem_names_of_marked (hentry : entry ∈ manifest.values) {value : ValueClass}
    (hbuilt : entry.toValueClass = .ok value)
    (hmarked : ∃ use ∈ entry.annotations, use.typeName = .ofDotted manifest.settings.marker) :
    .ofDotted entry.name ∈ manifest.session.run.names := by
  obtain ⟨hname, hannotations⟩ := ValueEntry.toValueClass_eq_ok hbuilt
  have hvalue : value ∈ manifest.session.catalog := by
    rw [session, catalog, Catalog.values_ofEntries]
    exact List.mem_filterMap.2 ⟨entry, hentry, toOption_eq_some.2 hbuilt⟩
  have hmark : value.isMarked manifest.session.settings.marker = true := by
    obtain ⟨use, huse, htype⟩ := hmarked
    refine List.any_eq_true.2 ⟨use, hannotations ▸ huse, ?_⟩
    rw [AnnotationUse.isNamed, htype, QualifiedName.display_ofDotted, beq_iff_eq]
    rfl
  rw [← hname]
  exact Session.mem_names_iff.2
    (.inl (List.mem_map_of_mem (List.mem_filter.2 ⟨hvalue, hmark⟩)))

/-- The failures of the catalog have the names of the entries that are no value classes. -/
theorem map_name_failures (entries : List ValueEntry) :
    (Catalog.ofEntries entries).failures.map (·.name) =
      (entries.filter fun entry => entry.failure?.isSome).map (·.name) := by
  rw [Catalog.failures_ofEntries]
  induction entries with
  | nil => rfl
  | cons entry entries ih =>
    rw [List.filterMap_cons, List.filter_cons]
    cases hentry : entry.toValueClass with
    | ok value => simp [ValueEntry.failure?, hentry, ih]
    | error error => simp [ValueEntry.failure?, hentry, ih]

/-- One failure of the catalog names an entry if it is no value class, and none if it is one. -/
theorem count_catalog_failures (hdistinct : (manifest.values.map (·.name)).Nodup)
    (hentry : entry ∈ manifest.values) :
    (manifest.catalog.failures.map (·.name)).count entry.name =
      if entry.failure?.isSome then 1 else 0 := by
  rw [catalog, map_name_failures]
  have hnames : ((manifest.values.filter fun entry => entry.failure?.isSome).map (·.name)).Nodup :=
    hdistinct.sublist (List.filter_sublist.map _)
  have hmem :
      entry.name ∈ (manifest.values.filter fun entry => entry.failure?.isSome).map (·.name) ↔
        entry.failure?.isSome := by
    rw [List.mem_map]
    constructor
    · rintro ⟨other, hother, hname⟩
      obtain ⟨hother, hfailed⟩ := List.mem_filter.1 hother
      rwa [← List.inj_on_of_nodup_map hdistinct hother hentry hname]
    · exact fun hfailed => ⟨entry, List.mem_filter.2 ⟨hentry, hfailed⟩, rfl⟩
  split
  · next h => exact List.count_eq_one_of_mem hnames (hmem.2 h)
  · next h => exact List.count_eq_zero_of_not_mem (mt hmem.1 h)

/-- The failures of the session that name an entry are those of its value class. -/
theorem count_session_failures :
    ((manifest.session.run.failures.map EntryFailure.ofFailure).map (·.name)).count entry.name =
      (manifest.session.run.failures.map (·.valueClass)).count (.ofDotted entry.name) := by
  rw [List.map_map, List.count_eq_countP, List.count_eq_countP, List.countP_map, List.countP_map]
  refine List.countP_congr fun failure hfailure => ?_
  obtain ⟨other, -, hname, -⟩ :=
    exists_entry_of_mem_names (List.mem_append_right _ (List.mem_map_of_mem hfailure))
  simp [EntryFailure.ofFailure, hname, QualifiedName.display_ofDotted, QualifiedName.ofDotted_inj]

/-- The failures that name an entry are its own, and those of its value class in the session. -/
theorem count_failures (hdistinct : (manifest.values.map (·.name)).Nodup)
    (hentry : entry ∈ manifest.values) :
    ((manifest.plan directory format).failures.map (·.name)).count entry.name =
      (if entry.failure?.isSome then 1 else 0) +
        (manifest.session.run.failures.map (·.valueClass)).count (.ofDotted entry.name) := by
  rw [plan, List.map_append, List.count_append, count_catalog_failures hdistinct hentry,
    count_session_failures]

/-- An entry that is no value class has neither a unit nor a failure of the session. -/
theorem count_names_of_error (hdistinct : (manifest.values.map (·.name)).Nodup)
    (hentry : entry ∈ manifest.values) (hfailed : entry.failure?.isSome) :
    manifest.session.run.names.count (.ofDotted entry.name) = 0 := by
  refine List.count_eq_zero_of_not_mem fun hmem => ?_
  obtain ⟨other, hother, hname, hbuilt⟩ := exists_entry_of_mem_names hmem
  rw [List.inj_on_of_nodup_map hdistinct hentry hother (QualifiedName.ofDotted_inj.1 hname),
    hbuilt] at hfailed
  cases hfailed

/-- A marked entry that is a value class has one unit or one failure of the session. -/
theorem count_names_of_marked (hentry : entry ∈ manifest.values) {value : ValueClass}
    (hbuilt : entry.toValueClass = .ok value)
    (hmarked : ∃ use ∈ entry.annotations, use.typeName = .ofDotted manifest.settings.marker) :
    manifest.session.run.names.count (.ofDotted entry.name) = 1 :=
  List.count_eq_one_of_mem manifest.session.nodup_names
    (mem_names_of_marked hentry hbuilt hmarked)

/-- No entry is dropped. If the names of the entries are distinct and all files are written, the
paths are those of the units in their order; the units of a marked entry and the failures that name
it are together one; an entry that is no value class is one failure, with its error; and the
failures are those of the entries that are no value classes, in manifest order, and then those of
the session in the order of their turns. -/
theorem every_entry_accounted {σ : Type} {store : FileStore (StateM σ)} {state : σ}
    (hdistinct : (manifest.values.map (·.name)).Nodup)
    (hwritten : ((writeAll store (manifest.plan directory format).files).run state).1.2 = none) :
    ((writeAll store (manifest.plan directory format).files).run state).1.1 =
        manifest.session.run.units.map (·.outputPath directory format) ∧
      (∀ entry ∈ manifest.values,
        (∃ use ∈ entry.annotations, use.typeName = .ofDotted manifest.settings.marker) →
          (manifest.session.run.units.map (·.valueClass)).count (.ofDotted entry.name) +
            ((manifest.plan directory format).failures.map (·.name)).count entry.name = 1) ∧
      (∀ entry ∈ manifest.values, ∀ error, entry.toValueClass = .error error →
        ⟨entry.name, error⟩ ∈ (manifest.plan directory format).failures ∧
          ((manifest.plan directory format).failures.map (·.name)).count entry.name = 1) ∧
      (manifest.plan directory format).failures =
        manifest.values.filterMap ValueEntry.failure? ++
          manifest.session.run.failures.map .ofFailure ∧
      (manifest.session.run.failures.map (·.valueClass)).Sublist manifest.session.turns := by
  have hnames : ∀ name, manifest.session.run.names.count name =
      (manifest.session.run.units.map (·.valueClass)).count name +
        (manifest.session.run.failures.map (·.valueClass)).count name :=
    fun name => List.count_append
  have hfailures : (manifest.plan directory format).failures =
      manifest.values.filterMap ValueEntry.failure? ++
        manifest.session.run.failures.map .ofFailure := by
    rw [plan, catalog, Catalog.failures_ofEntries]
  refine ⟨?_, fun entry hentry hmarked => ?_, fun entry hentry error herror => ?_, hfailures,
    manifest.session.sound_final.failureOrder⟩
  · rw [(FileTree.written_cases store _ state).2 hwritten, plan, List.map_map]
    rfl
  · rw [count_failures hdistinct hentry]
    cases hbuilt : entry.toValueClass with
    | ok value =>
      have hone := count_names_of_marked hentry hbuilt hmarked
      rw [hnames] at hone
      simp [ValueEntry.failure?, hbuilt, hone]
    | error error =>
      have hfailed : entry.failure?.isSome := by simp [ValueEntry.failure?, hbuilt]
      have hnone := count_names_of_error hdistinct hentry hfailed
      rw [hnames] at hnone
      rw [if_pos hfailed]
      omega
  · have hfailure : entry.failure? = some ⟨entry.name, error⟩ := by
      simp [ValueEntry.failure?, herror]
    have hfailed : entry.failure?.isSome := by simp [hfailure]
    have hnone := count_names_of_error hdistinct hentry hfailed
    rw [hnames] at hnone
    rw [count_failures hdistinct hentry, if_pos hfailed, hfailures]
    refine ⟨List.mem_append_left _ (List.mem_filterMap.2 ⟨entry, hentry, hfailure⟩), ?_⟩
    omega

/-- A class that is generated, one with a property that no shadow class can hold, both marked, and
one with a type that cannot be read. -/
def mixed : Manifest :=
  ⟨{}, [
    ⟨"shop.Order", none, none, true, [.bare (.ofDotted ({} : Settings).marker)], []⟩,
    ⟨"shop.Matrix", none, none, true, [.bare (.ofDotted ({} : Settings).marker)],
      [⟨"rows", "List<List<String>>", none, []⟩]⟩,
    ⟨"shop.Broken", none, none, true, [], [⟨"items", "List<", none, []⟩]⟩]⟩

/-- The first class is written, the second and the third are failures. -/
theorem every_entry_accounted_mixed :
    ((writeAll FileTree.store (mixed.plan "out" .java).files).run emptyOutput).1 =
        (["out/shop/AutoValue_Order.java"], none) ∧
      (mixed.plan "out" .java).failures.map (·.name) = ["shop.Broken", "shop.Matrix"] ∧
      ∀ entry ∈ mixed.values.take 2,
        (mixed.session.run.units.map (·.valueClass)).count (.ofDotted entry.name) +
          ((mixed.plan "out" .java).failures.map (·.name)).count entry.name = 1 := by
  have hrun : ((writeAll FileTree.store (mixed.plan "out" .java).files).run emptyOutput).1 =
      (["out/shop/AutoValue_Order.java"], none) := by
    decide +kernel
  have hdistinct : (mixed.values.map (·.name)).Nodup := by decide
  obtain ⟨-, hmarked, -⟩ := every_entry_accounted hdistinct (congrArg Prod.snd hrun)
  refine ⟨hrun, by decide +kernel, fun entry hentry => ?_⟩
  have huses : ∀ entry ∈ mixed.values.take 2,
      ∃ use ∈ entry.annotations, use.typeName = .ofDotted mixed.settings.marker := by
    decide +kernel
  exact hmarked entry (List.mem_of_mem_take hentry) (huses entry hentry)

end Manifest

end ValueShadow
