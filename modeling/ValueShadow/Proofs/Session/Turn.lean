import ValueShadow.Proofs.Result
import ValueShadow.Session

/-!
# One turn of a session

A turn tries to generate a value class and to claim its class (`Session.attempt`). It has two
outcomes (`Session.visit_cases`): the value class is added to the failures and nothing is to be
followed, or what was generated is added to the units and its references are to be followed. Apart
from these lists, the names that had their turn and the owners, only what was reported on the way
changes.
-/

namespace ValueShadow

/-- A claim of a class finds it free and takes it, finds it taken by the same value class, or fails
because another value class owns it. -/
theorem Owners.claim_cases (owners : Owners) (naming : Naming) (generated : GeneratedClass) :
    (owners.lookup (naming.canonical generated.wrapper.name) = none ∧
      owners.claim naming generated =
        .ok ((naming.canonical generated.wrapper.name, generated.valueClass) :: owners)) ∨
    (owners.lookup (naming.canonical generated.wrapper.name) = some generated.valueClass ∧
      owners.claim naming generated = .ok owners) ∨
    ∃ owner, owners.lookup (naming.canonical generated.wrapper.name) = some owner ∧
      owner ≠ generated.valueClass ∧
      owners.claim naming generated =
        .error (.ambiguousName (naming.canonical generated.wrapper.name) (.claimed owner)) := by
  cases h : owners.lookup (naming.canonical generated.wrapper.name) with
  | none =>
    refine .inl ⟨rfl, ?_⟩
    simp only [Owners.claim, h]
  | some owner =>
    by_cases heq : owner = generated.valueClass
    · subst heq
      refine .inr (.inl ⟨rfl, ?_⟩)
      simp only [Owners.claim, h, if_true]
    · refine .inr (.inr ⟨owner, rfl, heq, ?_⟩)
      simp only [Owners.claim, h, heq, if_false]

namespace Session

/-- What is generated for a value class and the owners after it claimed its class. -/
def attempt (session : Session) (owners : Owners) (value : ValueClass) :
    Result (GeneratedClass × Owners) := do
  let generated ← session.generate value
  let owners ← owners.claim session.settings.naming generated
  return (generated, owners)

section
variable {session : Session} {owners owners' : Owners} {value : ValueClass}

/-- An attempt succeeds exactly if the class can be generated and claimed. -/
theorem attempt_eq_ok {generated : GeneratedClass} :
    session.attempt owners value = .ok (generated, owners') ↔
      session.generate value = .ok generated ∧
        owners.claim session.settings.naming generated = .ok owners' := by
  rw [attempt, bind_eq_ok]
  constructor
  · rintro ⟨generated', hgenerate, h⟩
    obtain ⟨owners'', hclaim, h⟩ := bind_eq_ok.1 h
    cases h
    exact ⟨hgenerate, hclaim⟩
  · rintro ⟨hgenerate, hclaim⟩
    exact ⟨generated, hgenerate, bind_eq_ok.2 ⟨owners', hclaim, rfl⟩⟩

/-- An attempt fails exactly if the class cannot be generated, or if it cannot be claimed. -/
theorem attempt_eq_error {error : ShadowError} :
    session.attempt owners value = .error error ↔
      session.generate value = .error error ∨
        ∃ generated, session.generate value = .ok generated ∧
          owners.claim session.settings.naming generated = .error error := by
  rw [attempt, bind_eq_error]
  constructor
  · rintro (hgenerate | ⟨generated, hgenerate, h⟩)
    · exact .inl hgenerate
    · obtain hclaim | ⟨_, -, h⟩ := bind_eq_error.1 h
      · exact .inr ⟨generated, hgenerate, hclaim⟩
      · cases h
  · rintro (hgenerate | ⟨generated, hgenerate, hclaim⟩)
    · exact .inl hgenerate
    · exact .inr ⟨generated, hgenerate, bind_eq_error.2 (.inl hclaim)⟩

end

namespace Progress

/-- Reporting missing references changes the events and the references that were reported. -/
theorem recordMissing_eq (progress : Progress) (value : QualifiedName)
    (references : List QualifiedName) :
    ∃ missing events, progress.recordMissing value references =
      { progress with missing, report := { progress.report with events } } := by
  induction references generalizing progress with
  | nil => exact ⟨progress.missing, progress.report.events, rfl⟩
  | cons reference references ih =>
    rw [recordMissing]
    split
    · exact ih progress
    · obtain ⟨missing, events, h⟩ := ih
        { progress.record [.missing reference value] with missing := reference :: progress.missing }
      exact ⟨missing, events, h⟩

/-- A success adds what was generated to the units; the rest that it changes was only reported. -/
theorem succeed_eq (progress : Progress) (session : Session) (generated : GeneratedClass) :
    ∃ missing events, progress.succeed session generated =
      { progress with
        missing
        report :=
          { progress.report with units := progress.report.units ++ [generated], events } } := by
  obtain ⟨missing, events, h⟩ := progress.recordMissing_eq generated.valueClass
    (generated.references.filter fun reference => (session.find? reference).isNone)
  rw [succeed, h]
  exact ⟨missing, _, rfl⟩

end Progress

/-- The two outcomes of a turn, as the attempt to generate and claim the class decides. -/
theorem visit_cases (session : Session) (progress : Progress) (value : ValueClass) :
    (∃ error events, session.attempt progress.owners value = .error error ∧
      session.visit progress value =
        ({ progress with
            visited := value.name :: progress.visited
            report :=
              { progress.report with
                failures := progress.report.failures ++ [⟨value.name, error⟩]
                events } },
          [])) ∨
    ∃ generated owners missing events,
      session.attempt progress.owners value = .ok (generated, owners) ∧
      session.visit progress value =
        ({ visited := value.name :: progress.visited
           missing
           owners
           report :=
            { progress.report with units := progress.report.units ++ [generated], events } },
          generated.references.filterMap session.find?) := by
  cases hgenerate : session.generate value with
  | error error =>
    refine .inl ⟨error, progress.report.events ++ [.failed value.name error],
      attempt_eq_error.2 (.inl hgenerate), ?_⟩
    simp only [visit, hgenerate]
    rfl
  | ok generated =>
    cases hclaim : progress.owners.claim session.settings.naming generated with
    | error error =>
      refine .inl ⟨error, progress.report.events ++
        [.built generated.shadow.name generated.shadow.fields.length] ++ [.failed value.name error],
        attempt_eq_error.2 (.inr ⟨generated, hgenerate, hclaim⟩), ?_⟩
      simp only [visit, hgenerate, Progress.record, hclaim]
      rfl
    | ok owners =>
      obtain ⟨missing, events, h⟩ := Progress.succeed_eq
        { progress with
          visited := value.name :: progress.visited
          owners
          report :=
            { progress.report with
              events := progress.report.events ++
                [.built generated.shadow.name generated.shadow.fields.length] } }
        session generated
      refine .inr ⟨generated, owners, missing, events, attempt_eq_ok.2 ⟨hgenerate, hclaim⟩, ?_⟩
      simp only [visit, hgenerate, Progress.record, hclaim, h]

end Session

end ValueShadow
