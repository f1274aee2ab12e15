import ValueShadow.Proofs.Lookup
import ValueShadow.Proofs.Session.Loop
import ValueShadow.Proofs.ShadowClass.Assembly

/-!
# What holds between two turns

`Session.Sound` is the invariant of a run: the names that had their turn are distinct and each of
them is that of one unit or one failure, in the order of the turns; every unit is what an entry of
the catalog generates; and the owners are the units so far, each with the class it claimed, no two
of them with one class. A turn of a fresh entry keeps it (`Sound.visit`), so it holds wherever the
loop gets (`Steps.sound`). Under it a claim is decided by the units alone (`Sound.attempt_of_free`,
`Sound.attempt_of_claimed`).
-/

namespace ValueShadow

/-- The value classes of the units and of the failures. -/
def Report.names (report : Report) : List QualifiedName :=
  report.units.map (·.valueClass) ++ report.failures.map (·.valueClass)

namespace Session

/-- The class that a unit claims: its wrapper's, without chain markers. -/
def claimed (session : Session) (unit : GeneratedClass) : QualifiedName :=
  session.settings.naming.canonical unit.wrapper.name

/-- The invariant of a run between two turns. -/
structure Sound (session : Session) (progress : Progress) : Prop where
  distinct : progress.visited.Nodup
  names : progress.report.names.Perm progress.visited
  unitOrder : (progress.report.units.map (·.valueClass)).Sublist progress.visited.reverse
  failureOrder : (progress.report.failures.map (·.valueClass)).Sublist progress.visited.reverse
  units : ∀ unit ∈ progress.report.units, ∃ value ∈ session.catalog,
    value.name = unit.valueClass ∧ session.generate value = .ok unit
  failures : ∀ failure ∈ progress.report.failures, ∃ value ∈ session.catalog,
    value.name = failure.valueClass
  owners : progress.owners =
    (progress.report.units.map fun unit => (session.claimed unit, unit.valueClass)).reverse
  claims : (progress.report.units.map session.claimed).Nodup

section
variable {session : Session} {progress : Progress} {value : ValueClass}

/-- What is generated for a value class belongs to it. -/
theorem valueClass_of_generate {generated : GeneratedClass}
    (h : session.generate value = .ok generated) : generated.valueClass = value.name := by
  obtain ⟨converted, hassembled⟩ := GeneratedClass.exists_assembled h
  exact hassembled.valueClass

/-- A run starts sound. -/
theorem sound_start (session : Session) : session.Sound {} where
  distinct := .nil
  names := .nil
  unitOrder := .slnil
  failureOrder := .slnil
  units := by simp
  failures := by simp
  owners := rfl
  claims := .nil

/-- A value class had its turn exactly if it is that of a unit or of a failure. -/
theorem Sound.mem_visited (h : session.Sound progress) {name : QualifiedName} :
    name ∈ progress.visited ↔ name ∈ progress.report.names :=
  h.names.mem_iff.symm

/-- Each class has at most one owner, and these pairs are the units so far. -/
theorem Sound.lookup_owners (h : session.Sound progress) {name owner : QualifiedName} :
    progress.owners.lookup name = some owner ↔
      ∃ unit ∈ progress.report.units, session.claimed unit = name ∧ unit.valueClass = owner := by
  have hkeys : (progress.owners.map Prod.fst).Nodup := by
    rw [h.owners, List.map_reverse, List.map_map, List.nodup_reverse]
    exact h.claims
  rw [lookup_eq_some_iff_mem hkeys, h.owners, List.mem_reverse, List.mem_map]
  simp only [Prod.mk.injEq]

/-- A class that no unit claimed is generated and becomes its value class's. -/
theorem Sound.attempt_of_free (h : session.Sound progress) {generated : GeneratedClass}
    (hgenerate : session.generate value = .ok generated)
    (hfree : ∀ unit ∈ progress.report.units, session.claimed unit ≠ session.claimed generated) :
    session.attempt progress.owners value =
      .ok (generated, (session.claimed generated, value.name) :: progress.owners) := by
  rw [← valueClass_of_generate hgenerate, attempt_eq_ok]
  refine ⟨hgenerate, ?_⟩
  obtain ⟨-, hclaim⟩ | ⟨hlookup, -⟩ | ⟨owner, hlookup, -⟩ :=
    progress.owners.claim_cases session.settings.naming generated
  · exact hclaim
  · obtain ⟨unit, hunit, hclaimed, -⟩ := h.lookup_owners.1 hlookup
    exact absurd hclaimed (hfree unit hunit)
  · obtain ⟨unit, hunit, hclaimed, -⟩ := h.lookup_owners.1 hlookup
    exact absurd hclaimed (hfree unit hunit)

/-- A class that a unit of another value class claimed is ambiguous, and the error names that value
class. -/
theorem Sound.attempt_of_claimed (h : session.Sound progress) {generated unit : GeneratedClass}
    (hgenerate : session.generate value = .ok generated) (hunit : unit ∈ progress.report.units)
    (hother : unit.valueClass ≠ value.name)
    (hclaimed : session.claimed unit = session.claimed generated) :
    session.attempt progress.owners value =
      .error (.ambiguousName (session.claimed generated) (.claimed unit.valueClass)) := by
  rw [attempt_eq_error]
  refine .inr ⟨generated, hgenerate, ?_⟩
  have howner : progress.owners.lookup (session.claimed generated) = some unit.valueClass :=
    h.lookup_owners.2 ⟨unit, hunit, hclaimed, rfl⟩
  obtain ⟨hlookup, -⟩ | ⟨hlookup, -⟩ | ⟨owner, hlookup, -, hclaim⟩ :=
    progress.owners.claim_cases session.settings.naming generated
  · cases hlookup.symm.trans howner
  · rw [valueClass_of_generate hgenerate] at hlookup
    exact absurd (Option.some.inj (howner.symm.trans hlookup)) hother
  · cases hlookup.symm.trans howner
    exact hclaim

/-- A fresh value class that is generated claims a class that no unit claimed. -/
theorem Sound.of_attempt_eq_ok (h : session.Sound progress) {generated : GeneratedClass}
    {owners : Owners} (hfresh : value.name ∉ progress.visited)
    (hattempt : session.attempt progress.owners value = .ok (generated, owners)) :
    owners = (session.claimed generated, value.name) :: progress.owners ∧
      ∀ unit ∈ progress.report.units, session.claimed unit ≠ session.claimed generated := by
  obtain ⟨hgenerate, -⟩ := attempt_eq_ok.1 hattempt
  have hfree : ∀ unit ∈ progress.report.units,
      session.claimed unit ≠ session.claimed generated := by
    intro unit hunit hclaimed
    have hother : unit.valueClass ≠ value.name := by
      intro heq
      refine hfresh (h.mem_visited.2 (List.mem_append_left _ ?_))
      exact heq ▸ List.mem_map_of_mem hunit
    rw [h.attempt_of_claimed hgenerate hunit hother hclaimed] at hattempt
    cases hattempt
  rw [h.attempt_of_free hgenerate hfree] at hattempt
  cases hattempt
  exact ⟨rfl, hfree⟩

/-- A fresh entry of the catalog that fails keeps the invariant. -/
theorem Sound.add_failure (h : session.Sound progress) (hmem : value ∈ session.catalog)
    (hfresh : value.name ∉ progress.visited) (error : ShadowError) (events : List Event) :
    session.Sound
      { progress with
        visited := value.name :: progress.visited
        report :=
          { progress.report with
            failures := progress.report.failures ++ [⟨value.name, error⟩], events } } := by
  refine ⟨List.nodup_cons.2 ⟨hfresh, h.distinct⟩, ?_, ?_, ?_, h.units, ?_, h.owners, h.claims⟩
  · simp only [Report.names, List.map_append, List.map_cons, List.map_nil]
    rw [← List.append_assoc]
    exact (List.perm_append_singleton _ _).trans (h.names.cons _)
  · rw [List.reverse_cons]
    exact h.unitOrder.trans (List.sublist_append_left _ _)
  · simp only [List.map_append, List.map_cons, List.map_nil, List.reverse_cons]
    exact h.failureOrder.append (.refl _)
  · intro failure hfailure
    rcases List.mem_append.1 hfailure with hold | hnew
    · exact h.failures failure hold
    · rw [List.mem_singleton] at hnew
      subst hnew
      exact ⟨value, hmem, rfl⟩

/-- A fresh entry of the catalog that is generated keeps the invariant, if no unit claimed its
class. -/
theorem Sound.add_unit (h : session.Sound progress) (hmem : value ∈ session.catalog)
    (hfresh : value.name ∉ progress.visited) {generated : GeneratedClass}
    (hgenerate : session.generate value = .ok generated)
    (hfree : ∀ unit ∈ progress.report.units, session.claimed unit ≠ session.claimed generated)
    (missing : List QualifiedName) (events : List Event) :
    session.Sound
      { visited := value.name :: progress.visited
        missing
        owners := (session.claimed generated, value.name) :: progress.owners
        report :=
          { progress.report with units := progress.report.units ++ [generated], events } } := by
  have hvalue := valueClass_of_generate hgenerate
  refine ⟨List.nodup_cons.2 ⟨hfresh, h.distinct⟩, ?_, ?_, ?_, ?_, h.failures, ?_, ?_⟩
  · simp only [Report.names, List.map_append, List.map_cons, List.map_nil, List.append_assoc,
      List.singleton_append, hvalue]
    exact List.perm_middle.trans (h.names.cons _)
  · simp only [List.map_append, List.map_cons, List.map_nil, List.reverse_cons, hvalue]
    exact h.unitOrder.append (.refl _)
  · rw [List.reverse_cons]
    exact h.failureOrder.trans (List.sublist_append_left _ _)
  · intro unit hunit
    rcases List.mem_append.1 hunit with hold | hnew
    · exact h.units unit hold
    · rw [List.mem_singleton] at hnew
      subst hnew
      exact ⟨value, hmem, hvalue.symm, hgenerate⟩
  · rw [List.map_append, List.reverse_append, ← h.owners, ← hvalue]
    rfl
  · rw [List.map_append, List.map_cons, List.map_nil, List.nodup_append]
    refine ⟨h.claims, List.nodup_singleton _, ?_⟩
    intro name hname other hother
    obtain ⟨unit, hunit, rfl⟩ := List.mem_map.1 hname
    rw [List.mem_singleton.1 hother]
    exact hfree unit hunit

/-- The turn of a fresh entry of the catalog keeps the invariant. -/
theorem Sound.visit (h : session.Sound progress) (hmem : value ∈ session.catalog)
    (hfresh : value.name ∉ progress.visited) : session.Sound (session.visit progress value).1 := by
  obtain ⟨error, events, -, hvisit⟩ | ⟨generated, owners, missing, events, hattempt, hvisit⟩ :=
    session.visit_cases progress value
  · rw [hvisit]
    exact h.add_failure hmem hfresh error events
  · obtain ⟨hgenerate, -⟩ := attempt_eq_ok.1 hattempt
    obtain ⟨rfl, hfree⟩ := h.of_attempt_eq_ok hfresh hattempt
    rw [hvisit]
    exact h.add_unit hmem hfresh hgenerate hfree missing events

/-- The invariant of the loop: the queue holds entries of the catalog, and the progress is sound. -/
structure SoundLoop (session : Session) (loop : Loop) : Prop where
  queue : ∀ value ∈ loop.queue, value ∈ session.catalog
  progress : session.Sound loop.progress

/-- The loop starts sound. -/
theorem soundLoop_start (session : Session) : session.SoundLoop session.start :=
  ⟨fun _ => mem_catalog_of_mem_marked, session.sound_start⟩

/-- One iteration keeps the invariant of the loop. -/
theorem Step.sound {loop next : Loop} (h : session.Step loop next)
    (hsound : session.SoundLoop loop) : session.SoundLoop next := by
  obtain ⟨hqueue, hprogress⟩ := hsound
  cases h with
  | skip =>
    exact ⟨fun value hvalue => hqueue value (.tail _ hvalue), hprogress⟩
  | turn hfresh =>
    refine ⟨fun value hvalue => ?_, hprogress.visit (hqueue _ (.head _)) hfresh⟩
    rcases List.mem_append.1 hvalue with hold | hnew
    · exact hqueue value (.tail _ hold)
    · exact mem_catalog_of_mem_visit hnew

/-- Any number of iterations keep the invariant of the loop. -/
theorem Steps.sound {loop next : Loop} (h : session.Steps loop next)
    (hsound : session.SoundLoop loop) : session.SoundLoop next := by
  induction h with
  | refl => exact hsound
  | tail _ hstep ih => exact hstep.sound ih

/-- The invariant holds at the end of a run. -/
theorem sound_final (session : Session) : session.Sound session.final :=
  (Steps.sound session.steps_final session.soundLoop_start).progress

/-- No value class is in the report twice. -/
theorem nodup_names (session : Session) : session.run.names.Nodup :=
  session.sound_final.names.nodup_iff.2 session.sound_final.distinct

/-- Every unit is made from an entry of the catalog. -/
theorem exists_assembled {unit : GeneratedClass} (hunit : unit ∈ session.run.units) :
    ∃ value ∈ session.catalog, value.name = unit.valueClass ∧
      ∃ converted, unit.Assembled session.settings.naming value converted := by
  obtain ⟨value, hmem, hname, hgenerate⟩ := session.sound_final.units unit hunit
  exact ⟨value, hmem, hname, GeneratedClass.exists_assembled hgenerate⟩

/-- A session over one marked entry that can be generated has its unit. -/
theorem run_units_singleton {settings : Settings} {value : ValueClass}
    {generated : GeneratedClass} (hmarked : value.isMarked settings.marker = true)
    (hgenerate : (Session.mk settings [value]).generate value = .ok generated) :
    (Session.mk settings [value]).run.units = [generated] := by
  have hqueue : (Session.mk settings [value]).marked = [value] := by simp [marked, hmarked]
  obtain ⟨_, _, hattempt, -⟩ | ⟨generated', _, _, _, hattempt, hvisit⟩ :=
    (Session.mk settings [value]).visit_cases {} value
  · have hfree := (sound_start (Session.mk settings [value])).attempt_of_free hgenerate (by simp)
    cases hfree.symm.trans hattempt
  · obtain ⟨hgenerate', -⟩ := attempt_eq_ok.1 hattempt
    cases hgenerate.symm.trans hgenerate'
    simp [run, final, hqueue, explore, hvisit]

end

end Session

end ValueShadow
