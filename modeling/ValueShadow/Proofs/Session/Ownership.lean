import ValueShadow.Proofs.Session.Worklist

/-!
# Who owns a generated class

No two units of a run have one generated class, in any spelling: the class they claim, the wrapper's
name, the shadow class's name and the class that references spell are all different
(`units_pairwise`). When an entry has its turn (`HasTurn`) and its class can be generated, it fails
exactly if a unit that was there before claimed the same class (`HasTurn.failure_iff`); the error
names the value class of that unit, which stays the owner for the rest of the run
(`HasTurn.failure_error`, `HasTurn.lookup_later`).
-/

namespace ValueShadow.Session

/-- The entry has its turn in a run, with this progress before it. -/
def HasTurn (session : Session) (value : ValueClass) (before : Progress) : Prop :=
  value.name ∉ before.visited ∧ ∃ rest, session.Steps session.start ⟨value :: rest, before⟩

section
variable {session : Session} {value : ValueClass} {before : Progress}

/-! ## Units -/

/-- The class that a unit claims is the canonical form of the class that references spell. -/
theorem claimed_eq_canonical {unit : GeneratedClass} (hunit : unit ∈ session.run.units) :
    ∃ generated, session.settings.naming.generatedClass unit.valueClass = .ok generated ∧
      session.claimed unit = session.settings.naming.canonical generated := by
  obtain ⟨value, -, hname, _, hassembled⟩ := exists_assembled hunit
  rw [← hname]
  exact Naming.classBeingGenerated_canonical hassembled.wrapperName

/-- The shadow class of a unit is inside its wrapper. -/
theorem shadow_name_eq {unit : GeneratedClass} (hunit : unit ∈ session.run.units) :
    unit.shadow.name = unit.wrapper.name.nested session.settings.naming.shadowSuffix := by
  obtain ⟨_, -, -, _, hassembled⟩ := exists_assembled hunit
  exact hassembled.shadowName

/-- Two units that claim one class are one unit. -/
theorem eq_of_claimed_eq {unit other : GeneratedClass} (hunit : unit ∈ session.run.units)
    (hother : other ∈ session.run.units) (h : session.claimed unit = session.claimed other) :
    unit = other :=
  List.inj_on_of_nodup_map session.sound_final.claims hunit hother h

/-- Two units whose value classes have one shadow class, as references spell it, are one unit. -/
theorem eq_of_shadowName_eq {unit other : GeneratedClass} (hunit : unit ∈ session.run.units)
    (hother : other ∈ session.run.units) {shadow : QualifiedName}
    (h : session.settings.naming.shadowName unit.valueClass = .ok shadow)
    (h' : session.settings.naming.shadowName other.valueClass = .ok shadow) : unit = other := by
  obtain ⟨generated, hgenerated, rfl⟩ := Naming.shadowName_eq_ok.1 h
  obtain ⟨generated', hgenerated', hnested⟩ := Naming.shadowName_eq_ok.1 h'
  obtain rfl := QualifiedName.nested_inj hnested
  obtain ⟨_, hspelled, hclaimed⟩ := claimed_eq_canonical hunit
  obtain ⟨_, hspelled', hclaimed'⟩ := claimed_eq_canonical hother
  cases hspelled.symm.trans hgenerated
  cases hspelled'.symm.trans hgenerated'
  exact eq_of_claimed_eq hunit hother (hclaimed.trans hclaimed'.symm)

/-- Any two units have different value classes and different names of every kind. -/
theorem units_pairwise (session : Session) :
    session.run.units.Pairwise fun a b =>
      a.valueClass ≠ b.valueClass ∧
      session.claimed a ≠ session.claimed b ∧
      a.wrapper.name ≠ b.wrapper.name ∧
      a.shadow.name ≠ b.shadow.name ∧
      ∃ generated generated',
        session.settings.naming.generatedClass a.valueClass = .ok generated ∧
        session.settings.naming.generatedClass b.valueClass = .ok generated' ∧
        generated ≠ generated' := by
  have hclaims := List.pairwise_map.1 session.sound_final.claims
  refine hclaims.imp_of_mem fun {a b} ha hb hne => ?_
  obtain ⟨generated, hgenerated, hclaimed⟩ := claimed_eq_canonical ha
  obtain ⟨generated', hgenerated', hclaimed'⟩ := claimed_eq_canonical hb
  have hwrapper : a.wrapper.name ≠ b.wrapper.name := by
    intro heq
    exact hne (congrArg session.settings.naming.canonical heq)
  have hspelled : generated ≠ generated' := by
    rintro rfl
    exact hne (hclaimed.trans hclaimed'.symm)
  refine ⟨?_, hne, hwrapper, ?_, generated, generated', hgenerated, hgenerated', hspelled⟩
  · intro heq
    rw [heq, hgenerated'] at hgenerated
    cases hgenerated
    exact hspelled rfl
  · rw [shadow_name_eq ha, shadow_name_eq hb]
    exact fun heq => hwrapper (QualifiedName.nested_inj heq)

/-! ## Turns -/

/-- Every name of the report is that of an entry that has its turn. -/
theorem exists_hasTurn {name : QualifiedName} (hname : name ∈ session.run.names) :
    ∃ value before, session.HasTurn value before ∧ value.name = name := by
  have hvisited : ∀ loop, session.Steps session.start loop →
      ∀ visited ∈ loop.progress.visited,
        ∃ value before, session.HasTurn value before ∧ value.name = visited := by
    intro loop hsteps
    induction hsteps with
    | refl => simp [start]
    | tail hsteps hstep ih =>
      cases hstep with
      | skip => exact ih
      | turn hfresh =>
        intro visited hmem
        rw [visited_visit] at hmem
        rcases List.mem_cons.1 hmem with rfl | hold
        · exact ⟨_, _, ⟨hfresh, _, hsteps⟩, rfl⟩
        · exact ih visited hold
  exact hvisited _ session.steps_final name (session.sound_final.mem_visited.2 hname)

namespace HasTurn

/-- An entry that has its turn is an entry of the catalog. -/
theorem mem_catalog (h : session.HasTurn value before) :
    value ∈ session.catalog := by
  obtain ⟨-, _, hsteps⟩ := h
  exact (Steps.sound hsteps session.soundLoop_start).queue value (.head _)

/-- The progress before a turn is sound. -/
theorem sound (h : session.HasTurn value before) : session.Sound before := by
  obtain ⟨-, _, hsteps⟩ := h
  exact (Steps.sound hsteps session.soundLoop_start).progress

/-- The run goes on from its progress before a turn. -/
theorem extends_final (h : session.HasTurn value before) : before.Extends session.final := by
  obtain ⟨-, _, hsteps⟩ := h
  exact Steps.extends hsteps.steps_final

/-- The run goes on from its progress after a turn. -/
theorem visit_extends_final (h : session.HasTurn value before) :
    (session.visit before value).1.Extends session.final := by
  obtain ⟨hfresh, _, hsteps⟩ := h
  exact Steps.extends (Steps.steps_final (hsteps.tail (.turn hfresh)))

/-- Every progress of the run in which the entry had its turn goes on from the one before it. -/
theorem extends_later (h : session.HasTurn value before) {later : Loop}
    (hlater : session.Steps session.start later) (hvisited : value.name ∈ later.progress.visited) :
    before.Extends later.progress := by
  obtain ⟨hfresh, _, hsteps⟩ := h
  have hunique : Relator.RightUnique session.Step := fun _ _ _ => Step.deterministic
  rcases Relation.ReflTransGen.total_of_right_unique hunique hsteps hlater with hforth | hback
  · exact Steps.extends hforth
  · exact absurd ((Steps.extends hback).visited.subset hvisited) hfresh

/-- An entry whose attempt fails at its turn is a failure of the run with that error. -/
theorem failure_mem (h : session.HasTurn value before) {error : ShadowError}
    (hattempt : session.attempt before.owners value = .error error) :
    ⟨value.name, error⟩ ∈ session.run.failures := by
  refine h.visit_extends_final.failures.subset ?_
  obtain ⟨error', _, hattempt', hvisit⟩ | ⟨_, _, _, _, hattempt', -⟩ :=
    session.visit_cases before value
  · cases hattempt.symm.trans hattempt'
    rw [hvisit]
    exact List.mem_append_right _ (.head _)
  · cases hattempt.symm.trans hattempt'

/-- An entry whose attempt succeeds at its turn has a unit of the run. -/
theorem unit_mem (h : session.HasTurn value before) {generated : GeneratedClass} {owners : Owners}
    (hattempt : session.attempt before.owners value = .ok (generated, owners)) :
    generated ∈ session.run.units := by
  refine h.visit_extends_final.units.subset ?_
  obtain ⟨_, _, hattempt', -⟩ | ⟨_, _, _, _, hattempt', hvisit⟩ := session.visit_cases before value
  · cases hattempt.symm.trans hattempt'
  · cases hattempt.symm.trans hattempt'
    rw [hvisit]
    exact List.mem_append_right _ (.head _)

/-- An entry whose class can be generated fails exactly if a unit of another value class claimed the
class before. -/
theorem failure_iff (h : session.HasTurn value before) {generated : GeneratedClass}
    (hgenerate : session.generate value = .ok generated) :
    (∃ failure ∈ session.run.failures, failure.valueClass = value.name) ↔
      ∃ unit ∈ before.report.units, unit.valueClass ≠ value.name ∧
        session.claimed unit = session.claimed generated := by
  constructor
  · rintro ⟨failure, hfailure, hname⟩
    by_contra hnone
    have hfree : ∀ unit ∈ before.report.units,
        session.claimed unit ≠ session.claimed generated := by
      intro unit hunit hclaimed
      refine hnone ⟨unit, hunit, ?_, hclaimed⟩
      intro heq
      refine h.1 (h.sound.mem_visited.2 (List.mem_append_left _ ?_))
      exact heq ▸ List.mem_map_of_mem hunit
    -- Then the entry has a unit, and its name would be in the report twice.
    have hunit := h.unit_mem (h.sound.attempt_of_free hgenerate hfree)
    refine (List.nodup_append.1 session.nodup_names).2.2 value.name ?_ value.name ?_ rfl
    · exact valueClass_of_generate hgenerate ▸ List.mem_map_of_mem hunit
    · exact hname ▸ List.mem_map_of_mem hfailure
  · rintro ⟨unit, hunit, hother, hclaimed⟩
    exact ⟨_, h.failure_mem (h.sound.attempt_of_claimed hgenerate hunit hother hclaimed), rfl⟩

/-- The failure of an entry whose class a unit claimed before names the value class of that unit. -/
theorem failure_error (h : session.HasTurn value before) {generated unit : GeneratedClass}
    (hgenerate : session.generate value = .ok generated) (hunit : unit ∈ before.report.units)
    (hother : unit.valueClass ≠ value.name)
    (hclaimed : session.claimed unit = session.claimed generated) {failure : Failure}
    (hfailure : failure ∈ session.run.failures) (hname : failure.valueClass = value.name) :
    failure.error = .ambiguousName (session.claimed generated) (.claimed unit.valueClass) := by
  have hmem := h.failure_mem (h.sound.attempt_of_claimed hgenerate hunit hother hclaimed)
  have hdistinct : (session.run.failures.map (·.valueClass)).Nodup :=
    (List.nodup_append.1 session.nodup_names).2.1
  rw [List.inj_on_of_nodup_map hdistinct hfailure hmem hname]

/-- The owner of a class that was claimed before a turn stays its owner. -/
theorem lookup_later (h : session.HasTurn value before) {unit : GeneratedClass}
    (hunit : unit ∈ before.report.units) {later : Loop}
    (hlater : session.Steps session.start later) (hvisited : value.name ∈ later.progress.visited) :
    later.progress.owners.lookup (session.claimed unit) = some unit.valueClass := by
  have hsound := (Steps.sound hlater session.soundLoop_start).progress
  have hunit := (h.extends_later hlater hvisited).units.subset hunit
  exact hsound.lookup_owners.2 ⟨unit, hunit, rfl, rfl⟩

end HasTurn

/-- A failure of a run is that of an entry at its turn. -/
theorem exists_hasTurn_of_failure {failure : Failure} (hfailure : failure ∈ session.run.failures) :
    ∃ value before, session.HasTurn value before ∧ value.name = failure.valueClass ∧
      session.attempt before.owners value = .error failure.error := by
  obtain ⟨value, before, hturn, hname⟩ :=
    exists_hasTurn (List.mem_append_right _ (List.mem_map_of_mem hfailure))
  refine ⟨value, before, hturn, hname, ?_⟩
  obtain ⟨-, hdistinct, hapart⟩ := List.nodup_append.1 session.nodup_names
  cases hattempt : session.attempt before.owners value with
  | error error =>
    have hsame := List.inj_on_of_nodup_map hdistinct (hturn.failure_mem hattempt) hfailure hname
    rw [← hsame]
  | ok result =>
    have hvalue := valueClass_of_generate (attempt_eq_ok.1 hattempt).1
    have hunit := List.mem_map_of_mem (f := (·.valueClass)) (hturn.unit_mem hattempt)
    exact absurd (hvalue.trans hname) (hapart _ hunit _ (List.mem_map_of_mem hfailure))

/-- Generated classes are owned once. Any two units have different value classes, claims, wrapper
and shadow class names, and different classes that references spell. Every name of the report is
that of an entry that had its turn, after units that stay in front of the units of the run. If the
class of such an entry can be generated, it fails exactly if one of the units before it, of another
value class, claimed the same class; its error then names that unit's value class, which from there
on stays the owner of the class. -/
theorem classes_owned_once (session : Session) :
    (session.run.units.Pairwise fun a b =>
      a.valueClass ≠ b.valueClass ∧
      session.claimed a ≠ session.claimed b ∧
      a.wrapper.name ≠ b.wrapper.name ∧
      a.shadow.name ≠ b.shadow.name ∧
      ∃ generated generated',
        session.settings.naming.generatedClass a.valueClass = .ok generated ∧
        session.settings.naming.generatedClass b.valueClass = .ok generated' ∧
        generated ≠ generated') ∧
    (∀ name ∈ session.run.names, ∃ value before,
      session.HasTurn value before ∧ value.name = name) ∧
    ∀ value before generated, session.HasTurn value before →
      session.generate value = .ok generated →
      before.report.units <+: session.run.units ∧
      ((∃ failure ∈ session.run.failures, failure.valueClass = value.name) ↔
        ∃ unit ∈ before.report.units, unit.valueClass ≠ value.name ∧
          session.claimed unit = session.claimed generated) ∧
      ∀ unit ∈ before.report.units, unit.valueClass ≠ value.name →
        session.claimed unit = session.claimed generated →
        (∀ failure ∈ session.run.failures, failure.valueClass = value.name →
          failure.error =
            .ambiguousName (session.claimed generated) (.claimed unit.valueClass)) ∧
        ∀ later, session.Steps session.start later → value.name ∈ later.progress.visited →
          later.progress.owners.lookup (session.claimed generated) = some unit.valueClass := by
  refine ⟨session.units_pairwise, fun _ => exists_hasTurn, ?_⟩
  intro value before generated hturn hgenerate
  refine ⟨hturn.extends_final.units, hturn.failure_iff hgenerate, ?_⟩
  intro unit hunit hother hclaimed
  refine ⟨fun failure => hturn.failure_error hgenerate hunit hother hclaimed, ?_⟩
  intro later hlater hvisited
  rw [← hclaimed]
  exact hturn.lookup_later hunit hlater hvisited

end

/-- A value class that carries the default marker. -/
def markedClass (name : QualifiedName) (schema : Schema) : ValueClass :=
  { name, annotations := [.bare (.ofDotted ({} : Settings).marker)], schema }

/-- A class inside another one. -/
def innerClass : QualifiedName :=
  (QualifiedName.ofClass "com.example" "Outer").nested "Inner"

/-- The top-level class that has the name of the inner one once its simple names are joined. -/
def joinedClass : QualifiedName :=
  .ofClass "com.example" "Outer_Inner"

/-- The inner class and the one named like it, both marked. -/
def joinedAlike : Session :=
  ⟨{}, [markedClass innerClass .empty, markedClass joinedClass .empty]⟩

/-- The class generated for either of them. -/
theorem joinedAlike_generate {value : ValueClass} (hmem : value ∈ joinedAlike.catalog) :
    ∃ generated, joinedAlike.generate value = .ok generated ∧
      joinedAlike.claimed generated = .ofClass "com.example" "AutoValue_Outer_Inner" := by
  have hclaimed : ∀ value ∈ joinedAlike.catalog,
      (joinedAlike.generate value).toOption.map joinedAlike.claimed =
        some (.ofClass "com.example" "AutoValue_Outer_Inner") := by
    decide +kernel
  obtain ⟨generated, hgenerate, h⟩ := Option.map_eq_some_iff.1 (hclaimed value hmem)
  exact ⟨generated, toOption_eq_some.1 hgenerate, h⟩

/-- The inner class owns the class that the top-level class asks for too. -/
theorem classes_owned_once_joinedAlike :
    ∃ value before generated, joinedAlike.HasTurn value before ∧ value.name = joinedClass ∧
      joinedAlike.generate value = .ok generated ∧
      (∃ unit ∈ before.report.units, unit.valueClass = innerClass ∧
        joinedAlike.claimed unit = joinedAlike.claimed generated) ∧
      (∃ failure ∈ joinedAlike.run.failures, failure.valueClass = value.name ∧
        failure.error = .ambiguousName (.ofClass "com.example" "AutoValue_Outer_Inner")
          (.claimed innerClass)) ∧
      joinedAlike.final.owners.lookup (.ofClass "com.example" "AutoValue_Outer_Inner") =
        some innerClass := by
  obtain ⟨-, hturns, howned⟩ := classes_owned_once joinedAlike
  have hfailures : joinedAlike.run.failures.map (·.valueClass) = [joinedClass] := by
    decide +kernel
  have hunits : joinedAlike.run.units.map (·.valueClass) = [innerClass] := by
    decide +kernel
  obtain ⟨value, before, hturn, hname⟩ := hturns joinedClass <| by
    rw [Report.names, hfailures]
    exact List.mem_append_right _ (.head _)
  have hmem : value ∈ joinedAlike.catalog := by
    obtain ⟨-, _, hsteps⟩ := hturn
    exact (Steps.sound hsteps joinedAlike.soundLoop_start).queue value (.head _)
  obtain ⟨generated, hgenerate, hclaimed⟩ := joinedAlike_generate hmem
  obtain ⟨hbefore, hiff, hlater⟩ := howned value before generated hturn hgenerate
  obtain ⟨failure, hfailure, hof⟩ : ∃ failure ∈ joinedAlike.run.failures,
      failure.valueClass = value.name := by
    rw [hname, ← List.mem_map, hfailures]
    exact .head _
  obtain ⟨unit, hunit, hother, hsame⟩ := hiff.1 ⟨failure, hfailure, hof⟩
  have hinner := List.mem_map_of_mem (f := (·.valueClass)) (hbefore.subset hunit)
  rw [hunits, List.mem_singleton] at hinner
  obtain ⟨herror, howner⟩ := hlater unit hunit hother hsame
  rw [hclaimed, hinner] at herror howner
  refine ⟨value, before, generated, hturn, hname, hgenerate, ⟨unit, hunit, hinner, hsame⟩,
    ⟨failure, hfailure, hof, herror failure hfailure hof⟩, ?_⟩
  refine howner ⟨[], joinedAlike.final⟩ joinedAlike.steps_final ?_
  exact (sound_final joinedAlike).mem_visited.2
    (List.mem_append_right _ (hof ▸ List.mem_map_of_mem hfailure))

end ValueShadow.Session
