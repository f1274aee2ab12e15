import ValueShadow.Proofs.Session.Ownership
import ValueShadow.Proofs.ShadowClass.Obstacles

/-!
# Warnings of a run

A run warns about the references of its units. `Session.unitWarnings` are the warnings about one
unit: its references that are outside the catalog and no reference of a unit before it, and then its
references to other packages. The warnings of a run are those of its units, in their order
(`warnings_eq`): after every turn, the references that were reported are those of the units so far
that are outside the catalog (`Warned`), whichever value classes failed in between. So a missing
reference is reported once, where it is first used (`filterMap_missing?_warningsOf`).
-/

namespace ValueShadow

/-- The warnings among the events, in their order. -/
def Report.warnings (report : Report) : List Event :=
  report.events.filter (·.level = .warn)

/-- The reference that the event reports to be outside the catalog. -/
def Event.missing? : Event → Option QualifiedName
  | .missing reference _ => some reference
  | _ => none

/-- The value class whose reference the event warns about. -/
def Event.referrer? : Event → Option QualifiedName
  | .missing _ value | .crossPackage value _ => some value
  | _ => none

namespace Session

/-- The references of a unit that are outside the catalog and no reference of the earlier units. -/
def newlyMissing (session : Session) (earlier : List GeneratedClass) (unit : GeneratedClass) :
    List QualifiedName :=
  unit.references.filter fun reference =>
    (session.find? reference).isNone ∧ reference ∉ earlier.flatMap (·.references)

/-- The warnings about a unit that is generated after the earlier ones: one for each reference that
is newly missing, then one for each reference to another package. -/
def unitWarnings (session : Session) (earlier : List GeneratedClass) (unit : GeneratedClass) :
    List Event :=
  (session.newlyMissing earlier unit).map (.missing · unit.valueClass) ++
    (unit.references.filter (·.package ≠ unit.valueClass.package)).map
      (.crossPackage unit.valueClass)

/-- The warnings about units that are generated in this order. -/
def warningsOf (session : Session) (units : List GeneratedClass) : List Event :=
  units.zipIdx.flatMap fun (unit, i) => session.unitWarnings (units.take i) unit

/-- Those of the references that were not reported. -/
def Progress.unreported (progress : Progress) (references : List QualifiedName) :
    List QualifiedName :=
  references.filter (· ∉ progress.missing)

/-- What was reported so far: the references of the units that are outside the catalog, and nothing
but the warnings about the units. -/
structure Warned (session : Session) (progress : Progress) : Prop where
  missing : ∀ reference, reference ∈ progress.missing ↔
    (session.find? reference).isNone ∧ reference ∈ progress.report.units.flatMap (·.references)
  warnings : progress.report.warnings = session.warningsOf progress.report.units

section
variable {session : Session} {progress : Progress} {value : ValueClass}

/-! ## Warnings about units -/

/-- A unit that is generated last adds the warnings about it at the end. -/
theorem warningsOf_append_singleton (units : List GeneratedClass) (unit : GeneratedClass) :
    session.warningsOf (units ++ [unit]) =
      session.warningsOf units ++ session.unitWarnings units unit := by
  have hearlier : ∀ pair ∈ units.zipIdx,
      session.unitWarnings ((units ++ [unit]).take pair.2) pair.1 =
        session.unitWarnings (units.take pair.2) pair.1 := by
    rintro ⟨other, i⟩ hpair
    obtain ⟨-, hi, -⟩ := List.mem_zipIdx hpair
    rw [List.take_append_of_le_length (by omega)]
  rw [warningsOf, List.zipIdx_append, List.flatMap_append, List.flatMap_congr hearlier]
  simp [warningsOf]

/-- The references of a unit that are reported to be missing. -/
theorem filterMap_missing?_unitWarnings (earlier : List GeneratedClass) (unit : GeneratedClass) :
    (session.unitWarnings earlier unit).filterMap Event.missing? =
      session.newlyMissing earlier unit := by
  rw [unitWarnings, List.filterMap_append, List.filterMap_map, List.filterMap_map]
  have hmissing : Event.missing? ∘ (Event.missing · unit.valueClass) = some := rfl
  have hcross : Event.missing? ∘ Event.crossPackage unit.valueClass = fun _ => none := rfl
  rw [hmissing, hcross, List.filterMap_some, List.filterMap_none, List.append_nil]

/-- The references that are reported to be missing are those of the units that are outside the
catalog, in their order and without repeats. -/
theorem filterMap_missing?_warningsOf {units : List GeneratedClass}
    (hdistinct : ∀ unit ∈ units, unit.references.Nodup) :
    (session.warningsOf units).filterMap Event.missing? =
      ((units.flatMap (·.references)).filter fun reference =>
        (session.find? reference).isNone).eraseDups := by
  induction units using List.reverseRecOn with
  | nil => rfl
  | append_singleton units unit ih =>
    rw [List.forall_mem_append, List.forall_mem_singleton] at hdistinct
    obtain ⟨hunits, hunit⟩ := hdistinct
    have hnew :
        ((unit.references.filter fun reference => (session.find? reference).isNone).removeAll
          ((units.flatMap (·.references)).filter fun reference =>
            (session.find? reference).isNone)) = session.newlyMissing units unit := by
      rw [List.removeAll, List.filter_filter, newlyMissing]
      refine List.filter_congr fun reference _ => ?_
      rw [Bool.eq_iff_iff]
      simp only [List.elem_eq_mem, List.mem_filter, Bool.and_eq_true, Bool.not_eq_true',
        decide_eq_true_eq, decide_eq_false_iff_not]
      tauto
    have hself : (session.newlyMissing units unit).eraseDups = session.newlyMissing units unit :=
      eraseDups_eq_self (hunit.filter _)
    rw [warningsOf_append_singleton, List.filterMap_append, ih hunits,
      filterMap_missing?_unitWarnings, List.flatMap_append, List.flatMap_singleton,
      List.filter_append, List.eraseDups_append, hnew, hself]

/-- A warning about units is a warning about one of them. -/
theorem exists_unit_of_mem_warningsOf {units : List GeneratedClass} {event : Event}
    (h : event ∈ session.warningsOf units) :
    ∃ unit ∈ units, event.referrer? = some unit.valueClass := by
  obtain ⟨⟨unit, i⟩, hpair, hevent⟩ := List.mem_flatMap.1 h
  refine ⟨unit, List.fst_mem_of_mem_zipIdx hpair, ?_⟩
  rcases List.mem_append.1 hevent with hmissing | hcross
  · obtain ⟨_, -, rfl⟩ := List.mem_map.1 hmissing
    rfl
  · obtain ⟨_, -, rfl⟩ := List.mem_map.1 hcross
    rfl

/-- There is nothing to warn about exactly if all references are in the catalog and in the package
of the value class that refers to them. -/
theorem warningsOf_eq_nil_iff {units : List GeneratedClass} :
    session.warningsOf units = [] ↔
      ∀ unit ∈ units, ∀ reference ∈ unit.references,
        (session.find? reference).isSome ∧ reference.package = unit.valueClass.package := by
  induction units using List.reverseRecOn with
  | nil => simp [warningsOf]
  | append_singleton units unit ih =>
    rw [warningsOf_append_singleton, List.append_eq_nil_iff, ih, List.forall_mem_append,
      List.forall_mem_singleton]
    refine and_congr_right fun hunits => ?_
    -- All references of the earlier units are in the catalog, so a missing one is newly missing.
    have hnew : session.newlyMissing units unit = [] ↔
        ∀ reference ∈ unit.references, (session.find? reference).isSome := by
      rw [newlyMissing, List.filter_eq_nil_iff]
      refine forall₂_congr fun reference _ => ?_
      rw [decide_eq_true_eq, not_and, Option.isNone_iff_eq_none, Option.isSome_iff_ne_none]
      refine ⟨fun h hnone => h hnone fun hearlier => ?_, fun h hnone => absurd hnone h⟩
      obtain ⟨other, hother, hreference⟩ := List.mem_flatMap.1 hearlier
      exact Option.isSome_iff_ne_none.1 (hunits other hother reference hreference).1 hnone
    rw [unitWarnings, List.append_eq_nil_iff, List.map_eq_nil_iff, List.map_eq_nil_iff, hnew,
      List.filter_eq_nil_iff, ← forall₂_and]
    simp only [ne_eq, decide_not, Bool.not_eq_true', decide_eq_false_iff_not, not_not]

/-! ## Turns -/

/-- References without repeats are reported in their order, unless they were reported before. -/
theorem Progress.recordMissing_of_nodup (progress : Progress) (value : QualifiedName)
    {references : List QualifiedName} (hdistinct : references.Nodup) :
    progress.recordMissing value references =
      { progress.record ((progress.unreported references).map (.missing · value)) with
        missing := (progress.unreported references).reverse ++ progress.missing } := by
  induction references generalizing progress with
  | nil => simp [recordMissing, unreported, record]
  | cons reference references ih =>
    obtain ⟨hfresh, hdistinct⟩ := List.nodup_cons.1 hdistinct
    rw [recordMissing]
    split
    · next hmem =>
      have hcons : progress.unreported (reference :: references) = progress.unreported references :=
        List.filter_cons_of_neg (by simpa using hmem)
      rw [ih progress hdistinct, hcons]
    · next hmem =>
      have hcons : progress.unreported (reference :: references) =
          reference :: progress.unreported references :=
        List.filter_cons_of_pos (by simpa using hmem)
      have hothers : ∀ next : Progress, next.missing = reference :: progress.missing →
          next.unreported references = progress.unreported references := by
        rintro next hmissing
        refine List.filter_congr fun other hother => ?_
        have hne : other ≠ reference := fun heq => hfresh (heq ▸ hother)
        simp [hmissing, hne]
      rw [ih _ hdistinct, hcons]
      simp [record, hothers]

/-- Only what was reported, the units and the warnings matter. -/
theorem Warned.congr {next : Progress} (h : session.Warned progress)
    (hmissing : next.missing = progress.missing)
    (hunits : next.report.units = progress.report.units)
    (hwarnings : next.report.warnings = progress.report.warnings) : session.Warned next := by
  refine ⟨fun reference => ?_, ?_⟩
  · rw [hmissing, hunits]
    exact h.missing reference
  · rw [hwarnings, hunits]
    exact h.warnings

/-- What is still to be reported of the references of a unit is what is newly missing. -/
theorem Warned.unreported_eq (h : session.Warned progress) (unit : GeneratedClass) :
    progress.unreported (unit.references.filter fun reference => (session.find? reference).isNone) =
      session.newlyMissing progress.report.units unit := by
  rw [Progress.unreported, List.filter_filter, newlyMissing]
  refine List.filter_congr fun reference _ => ?_
  rw [Bool.eq_iff_iff]
  simp only [Bool.and_eq_true, decide_eq_true_eq, h.missing]
  tauto

/-- Events of one warning for each reference are all warnings. -/
theorem filter_warn_map (report : QualifiedName → Event) (h : ∀ name, (report name).level = .warn)
    (references : List QualifiedName) :
    (references.map report).filter (·.level = .warn) = references.map report := by
  rw [List.filter_eq_self, List.forall_mem_map]
  exact fun name _ => decide_eq_true (h name)

/-- A success reports what is to be reported about its unit. -/
theorem Warned.succeed (h : session.Warned progress) {generated : GeneratedClass}
    (hdistinct : generated.references.Nodup) :
    session.Warned (progress.succeed session generated) := by
  have hrecord := progress.recordMissing_of_nodup generated.valueClass
    (hdistinct.filter fun reference => (session.find? reference).isNone)
  rw [h.unreported_eq] at hrecord
  rw [Progress.succeed, hrecord]
  refine ⟨fun reference => ?_, ?_⟩
  · simp only [Progress.record, List.mem_append, List.mem_reverse, h.missing, newlyMissing,
      List.mem_filter, decide_eq_true_eq, List.flatMap_append, List.flatMap_singleton]
    tauto
  · have hwarnings := h.warnings
    have hmissing := filter_warn_map (.missing · generated.valueClass) (fun _ => rfl)
      (session.newlyMissing progress.report.units generated)
    have hcross := filter_warn_map (.crossPackage generated.valueClass) (fun _ => rfl)
      generated.crossPackageReferences
    have hgenerated : [Event.generated generated.shadow.name].filter (·.level = .warn) = [] := rfl
    have hothers : generated.crossPackageReferences =
        generated.references.filter (·.package ≠ generated.valueClass.package) := by
      refine List.filter_congr fun reference _ => ?_
      simp [bne, beq_eq_decide]
    rw [hothers] at hcross
    simp only [Report.warnings] at hwarnings
    simp only [Progress.record, Report.warnings, List.filter_append, hwarnings, hmissing, hothers,
      hcross, hgenerated, warningsOf_append_singleton, unitWarnings, List.append_assoc,
      List.append_nil]

/-- The references of what is generated are distinct. -/
theorem nodup_references {generated : GeneratedClass}
    (h : session.generate value = .ok generated) : generated.references.Nodup := by
  obtain ⟨converted, hassembled⟩ := GeneratedClass.exists_assembled h
  rw [hassembled.references]
  exact nodup_eraseDups _

/-- A turn reports what is to be reported about its unit, and nothing if there is none. -/
theorem Warned.visit (h : session.Warned progress) (value : ValueClass) :
    session.Warned (session.visit progress value).1 := by
  unfold Session.visit
  split
  · next error _ =>
    refine h.congr rfl rfl ?_
    simp [Report.warnings, Progress.fail, Progress.record, Event.level]
  · next generated hgenerate =>
    dsimp only
    split
    · next error _ =>
      refine h.congr rfl rfl ?_
      simp [Report.warnings, Progress.fail, Progress.record, Event.level]
    · next owners _ =>
      refine Warned.succeed ?_ (nodup_references hgenerate)
      refine h.congr rfl rfl ?_
      simp [Report.warnings, Progress.record, Event.level]

/-- Before its first iteration, the loop has nothing to report. -/
theorem warned_start (session : Session) : session.Warned session.start.progress :=
  ⟨by simp [start], rfl⟩

/-- Any number of iterations report what is to be reported about the units. -/
theorem Steps.warned {loop next : Loop} (h : session.Steps loop next)
    (hwarned : session.Warned loop.progress) : session.Warned next.progress := by
  induction h with
  | refl => exact hwarned
  | tail _ hstep ih =>
    cases hstep with
    | skip => exact ih
    | turn => exact ih.visit _

/-- The warnings of a run are those about its units. -/
theorem warnings_eq (session : Session) :
    session.run.warnings = session.warningsOf session.run.units :=
  (Steps.warned session.steps_final session.warned_start).warnings

/-- The warnings of a run are exact: they are those about its units, in their order. The references
of a unit are the value classes that the types of its properties hold, each where it is first used.
Those that are reported to be missing are those of the units that are outside the catalog, each once
and where it is first used. No warning is about a reference of a value class
that failed. There is no warning exactly if all references of the units are in the catalog and in
the package of the value class that refers to them. -/
theorem warnings_exact (session : Session) :
    session.run.warnings = session.warningsOf session.run.units ∧
      (∀ unit ∈ session.run.units, ∃ value ∈ session.catalog, value.name = unit.valueClass ∧
        unit.references =
          (value.schema.properties.filterMap (·.type.heldValueClass?)).eraseDups) ∧
      session.run.warnings.filterMap Event.missing? =
        ((session.run.units.flatMap (·.references)).filter fun reference =>
          (session.find? reference).isNone).eraseDups ∧
      (∀ unit ∈ session.run.units, ∀ reference ∈ unit.references, session.find? reference = none →
        (session.run.warnings.filterMap Event.missing?).count reference = 1) ∧
      (∀ failure ∈ session.run.failures, ∀ event ∈ session.run.warnings,
        event.referrer? ≠ some failure.valueClass) ∧
      (session.run.warnings = [] ↔
        ∀ unit ∈ session.run.units, ∀ reference ∈ unit.references,
          (session.find? reference).isSome ∧ reference.package = unit.valueClass.package) := by
  have hdistinct : ∀ unit ∈ session.run.units, unit.references.Nodup := by
    intro unit hunit
    obtain ⟨_, -, -, hgenerate⟩ := session.sound_final.units unit hunit
    exact nodup_references hgenerate
  rw [warnings_eq]
  have hmissing := session.filterMap_missing?_warningsOf hdistinct
  refine ⟨rfl, fun unit hunit => ?_, hmissing, fun unit hunit reference hreference hnone => ?_,
    fun failure hfailure event hevent hreferrer => ?_, warningsOf_eq_nil_iff⟩
  · obtain ⟨value, hvalue, hname, _, hassembled⟩ := exists_assembled hunit
    exact ⟨value, hvalue, hname, by rw [hassembled.references_eq, hassembled.converted_eq]⟩
  · rw [hmissing]
    refine List.count_eq_one_of_mem (nodup_eraseDups _) (List.mem_eraseDups.2 ?_)
    exact List.mem_filter.2 ⟨List.mem_flatMap.2 ⟨unit, hunit, hreference⟩, by simp [hnone]⟩
  · obtain ⟨unit, hunit, hunit'⟩ := exists_unit_of_mem_warningsOf hevent
    rw [hunit', Option.some.injEq] at hreferrer
    exact (List.nodup_append.1 session.nodup_names).2.2 _ (List.mem_map_of_mem hunit) _
      (List.mem_map_of_mem hfailure) hreferrer

end

/-- The class of the one who pays an invoice, which is in no catalog. -/
def payerName : QualifiedName :=
  .ofClass "com.example" "Payer"

/-- The class of a tag on an invoice or an item, in another package. -/
def tagName : QualifiedName :=
  .ofClass "org.acme" "Tag"

/-- An item of an invoice. -/
def invoiceItem : ValueClass where
  name := .ofClass "com.example" "Item"
  schema :=
    { properties := [
        ⟨"payer", .valueRef payerName, none, []⟩,
        ⟨"tags", .collection .list (.valueRef tagName), none, []⟩]
      spellable := by decide +kernel
      distinct := by decide }

/-- An invoice with its payer, tags and items. -/
def invoice : ValueClass :=
  markedClass (.ofClass "com.example" "Invoice")
    { properties := [
        ⟨"payer", .valueRef payerName, none, []⟩,
        ⟨"tags", .collection .list (.valueRef tagName), none, []⟩,
        ⟨"items", .collection .list (.valueRef invoiceItem.name), none, []⟩]
      spellable := by decide +kernel
      distinct := by decide }

/-- A draft of an invoice, with lists inside a list, for which nothing can be generated. -/
def invoiceDraft : ValueClass :=
  markedClass (.ofClass "com.example" "Draft")
    { properties := [
        ⟨"author", .valueRef (.ofClass "com.example" "Author"), none, []⟩,
        ⟨"notes", .collection .list (.collection .list (.primitive .string)), none, []⟩]
      spellable := by decide +kernel
      distinct := by decide }

/-- The invoice, its draft and its item. -/
def billing : Session where
  settings := {}
  catalog := [invoiceDraft, invoice, invoiceItem]

/-- The invoice and its item share a payer, of which only the invoice is warned about, and a tag of
another package, of which both are. The author of the draft is not warned about. -/
theorem warnings_exact_billing :
    billing.run.failures.map (·.valueClass) = [invoiceDraft.name] ∧
      billing.run.warnings.map (·.message) =
        [ "Value class com.example.Payer referenced by com.example.Invoice is not in the catalog; " ++
            "its shadow class must come from another run",
          "Value class org.acme.Tag referenced by com.example.Invoice is not in the catalog; " ++
            "its shadow class must come from another run",
          "com.example.Invoice references org.acme.Tag from another package; " ++
            "its package-private shadow class is not accessible there",
          "com.example.Item references org.acme.Tag from another package; " ++
            "its package-private shadow class is not accessible there" ] ∧
      (billing.run.warnings.filterMap Event.missing?).count tagName = 1 ∧
      ∀ event ∈ billing.run.warnings, event.referrer? ≠ some invoiceDraft.name := by
  obtain ⟨-, -, -, honce, hfailures, -⟩ := warnings_exact billing
  have hunit : ∃ unit ∈ billing.run.units, tagName ∈ unit.references := by decide +kernel
  obtain ⟨unit, hunit, hreference⟩ := hunit
  have hdraft : billing.run.failures.map (·.valueClass) = [invoiceDraft.name] := by
    decide +kernel
  obtain ⟨failure, hfailure, hname⟩ := List.mem_map.1 (hdraft ▸ List.mem_singleton_self _)
  refine ⟨hdraft, by decide +kernel, honce unit hunit tagName hreference (by rfl), ?_⟩
  rw [← hname]
  exact hfailures failure hfailure

end Session

end ValueShadow
