import ValueShadow.Proofs.Session.Ownership

/-!
# A run without what fails

A run over the entries that have a unit (`Session.survivors`) is the run over the whole catalog with
everything else left out: the loop of the survivors mirrors the loop of the session (`Mirrors`). A
turn that succeeds is mirrored by the same turn, since what is generated does not depend on the
catalog and the owners are the same (`attempt_survivors`); a turn that fails is mirrored by none,
since it adds no owner and puts nothing into the queue (`Step.mirrors`). So an entry that cannot be
generated, that loses its class to another one or that is never visited changes nothing for the
others (`run_survivors`).
-/

namespace ValueShadow.Session

/-- The run has a unit for the name. -/
def HasUnit (session : Session) (name : QualifiedName) : Prop :=
  name ∈ session.run.units.map (·.valueClass)

instance (session : Session) : DecidablePred session.HasUnit :=
  fun name => inferInstanceAs (Decidable (name ∈ session.run.units.map (·.valueClass)))

/-- The session over the entries for which the run has units. -/
def survivors (session : Session) : Session :=
  { session with catalog := session.catalog.filter fun value => session.HasUnit value.name }

/-- The mirror is a loop that leaves out the names without a unit and has the same owners and
units. -/
structure Mirrors (session : Session) (loop mirror : Loop) : Prop where
  queue : mirror.queue = loop.queue.filter fun value => session.HasUnit value.name
  visited : mirror.progress.visited = loop.progress.visited.filter fun name => session.HasUnit name
  owners : mirror.progress.owners = loop.progress.owners
  units : mirror.progress.report.units = loop.progress.report.units
  failures : mirror.progress.report.failures = []

section
variable {session : Session} {value : ValueClass} {before : Progress}

/-- What is generated and claimed does not depend on the catalog. -/
theorem attempt_survivors (session : Session) (owners : Owners) (value : ValueClass) :
    session.survivors.attempt owners value = session.attempt owners value :=
  rfl

/-- The survivors hold an entry of a name if the session does and the name has a unit. -/
theorem find?_survivors (session : Session) (name : QualifiedName) :
    session.survivors.find? name =
      (session.find? name).filter fun value => session.HasUnit value.name := by
  rw [find?, survivors, List.find?_filter]
  by_cases hunit : session.HasUnit name
  · have hsame : (fun value : ValueClass => decide (decide (session.HasUnit value.name) = true ∧
        (value.name == name) = true)) = fun value => value.name == name := by
      funext value
      by_cases hname : value.name = name <;> simp [hname, hunit]
    rw [hsame, ← find?]
    cases hfind : session.find? name with
    | none => rfl
    | some value =>
      have hname := (mem_of_find? hfind).2
      exact (Option.filter_eq_some_iff.2 ⟨rfl, by rw [hname]; simpa using hunit⟩).symm
  · rw [List.find?_eq_none.2, eq_comm, Option.filter_eq_none_iff]
    · intro value hfind
      rw [(mem_of_find? hfind).2]
      simpa using hunit
    · intro value _ h
      simp only [decide_eq_true_eq, beq_iff_eq] at h
      exact hunit (h.2 ▸ h.1)

/-- Of the entries that references lead to, the survivors find those with a unit. -/
theorem filterMap_find?_survivors (session : Session) (references : List QualifiedName) :
    references.filterMap session.survivors.find? =
      (references.filterMap session.find?).filter fun value => session.HasUnit value.name := by
  rw [List.filter_filterMap]
  exact List.filterMap_congr fun name _ => session.find?_survivors name

/-- An entry whose attempt succeeds at its turn has a unit. -/
theorem HasTurn.hasUnit (h : session.HasTurn value before) {generated : GeneratedClass}
    {owners : Owners} (hattempt : session.attempt before.owners value = .ok (generated, owners)) :
    session.HasUnit value.name := by
  rw [← valueClass_of_generate (attempt_eq_ok.1 hattempt).1]
  exact List.mem_map_of_mem (h.unit_mem hattempt)

/-- An entry whose attempt fails at its turn has no unit. -/
theorem HasTurn.not_hasUnit (h : session.HasTurn value before) {error : ShadowError}
    (hattempt : session.attempt before.owners value = .error error) :
    ¬ session.HasUnit value.name := by
  intro hunit
  have hfailure := List.mem_map_of_mem (f := (·.valueClass)) (h.failure_mem hattempt)
  exact (List.nodup_append.1 session.nodup_names).2.2 _ hunit _ hfailure rfl

/-- The loop of the survivors starts as a mirror. -/
theorem mirrors_start (session : Session) :
    session.Mirrors session.start session.survivors.start where
  queue := by simp only [start, marked, survivors, List.filter_filter, Bool.and_comm]
  visited := rfl
  owners := rfl
  units := rfl
  failures := rfl

/-- An entry that is dropped is dropped in the mirror too, unless it was left out there. -/
theorem Mirrors.skip {rest : List ValueClass} {mirror : Loop}
    (h : session.Mirrors ⟨value :: rest, before⟩ mirror) (hmem : value.name ∈ before.visited) :
    ∃ mirror', session.survivors.Steps mirror mirror' ∧ session.Mirrors ⟨rest, before⟩ mirror' := by
  obtain ⟨queue, progress⟩ := mirror
  obtain ⟨hqueue, hvisited, howners, hunits, hfailures⟩ := h
  simp only at hqueue hvisited
  by_cases hunit : session.HasUnit value.name
  · rw [List.filter_cons_of_pos (by simpa using hunit)] at hqueue
    have hmem' : value.name ∈ progress.visited := by
      rw [hvisited]
      exact List.mem_filter.2 ⟨hmem, by simpa using hunit⟩
    subst hqueue
    exact ⟨_, .single (.skip hmem'), rfl, hvisited, howners, hunits, hfailures⟩
  · rw [List.filter_cons_of_neg (by simpa using hunit)] at hqueue
    exact ⟨_, .refl, hqueue, hvisited, howners, hunits, hfailures⟩

/-- A turn that fails leaves the mirror as it is. -/
theorem Mirrors.fail {rest : List ValueClass} {mirror : Loop}
    (h : session.Mirrors ⟨value :: rest, before⟩ mirror) (hunit : ¬ session.HasUnit value.name)
    (error : ShadowError) (events : List Event) :
    session.Mirrors
      ⟨rest ++ [],
        { before with
          visited := value.name :: before.visited
          report :=
            { before.report with
              failures := before.report.failures ++ [⟨value.name, error⟩], events } }⟩
      mirror where
  queue := by
    rw [h.queue, List.append_nil, List.filter_cons_of_neg]
    simpa using hunit
  visited := by
    rw [h.visited, List.filter_cons_of_neg]
    simpa using hunit
  owners := h.owners
  units := h.units
  failures := h.failures

/-- A turn that succeeds is mirrored by the turn of the same entry. -/
theorem Mirrors.succeed {rest : List ValueClass} {mirror : Loop} {generated : GeneratedClass}
    {owners : Owners} (h : session.Mirrors ⟨value :: rest, before⟩ mirror)
    (hfresh : value.name ∉ before.visited) (hunit : session.HasUnit value.name)
    (hattempt : session.attempt before.owners value = .ok (generated, owners))
    (missing : List QualifiedName) (events : List Event) :
    ∃ mirror', session.survivors.Steps mirror mirror' ∧
      session.Mirrors
        ⟨rest ++ generated.references.filterMap session.find?,
          { visited := value.name :: before.visited
            missing
            owners
            report := { before.report with units := before.report.units ++ [generated], events } }⟩
        mirror' := by
  obtain ⟨queue, progress⟩ := mirror
  obtain ⟨hqueue, hvisited, howners, hunits, hfailures⟩ := h
  simp only at hqueue hvisited howners hunits hfailures
  rw [List.filter_cons_of_pos (by simpa using hunit)] at hqueue
  subst hqueue
  have hfresh' : value.name ∉ progress.visited := by
    rw [hvisited]
    exact fun hmem => hfresh (List.mem_filter.1 hmem).1
  refine ⟨_, .single (.turn hfresh'), ?_⟩
  obtain ⟨_, _, hattempt', -⟩ | ⟨_, _, _, _, hattempt', hvisit⟩ :=
    session.survivors.visit_cases progress value
  · rw [attempt_survivors, howners] at hattempt'
    cases hattempt.symm.trans hattempt'
  · rw [attempt_survivors, howners] at hattempt'
    cases hattempt.symm.trans hattempt'
    rw [hvisit]
    refine ⟨?_, ?_, rfl, ?_, hfailures⟩
    · rw [List.filter_append, filterMap_find?_survivors]
    · rw [List.filter_cons_of_pos (by simpa using hunit), ← hvisited]
    · rw [← hunits]

/-- An iteration on the way of a run is mirrored by at most one iteration of the survivors. -/
theorem Step.mirrors {loop next mirror : Loop} (h : session.Step loop next)
    (hsteps : session.Steps session.start loop) (hmirrors : session.Mirrors loop mirror) :
    ∃ mirror', session.survivors.Steps mirror mirror' ∧ session.Mirrors next mirror' := by
  cases h with
  | skip hmem => exact hmirrors.skip hmem
  | @turn value rest progress hfresh =>
    have hturn : session.HasTurn value progress := ⟨hfresh, rest, hsteps⟩
    obtain ⟨error, events, hattempt, hvisit⟩ |
      ⟨generated, owners, missing, events, hattempt, hvisit⟩ := session.visit_cases progress value
    · rw [hvisit]
      exact ⟨mirror, .refl, hmirrors.fail (hturn.not_hasUnit hattempt) error events⟩
    · rw [hvisit]
      exact hmirrors.succeed hfresh (hturn.hasUnit hattempt) hattempt missing events

/-- Every loop of a run has a mirror in the run of the survivors. -/
theorem Steps.exists_mirror {loop : Loop} (h : session.Steps session.start loop) :
    ∃ mirror, session.survivors.Steps session.survivors.start mirror ∧
      session.Mirrors loop mirror := by
  induction h with
  | refl => exact ⟨_, .refl, session.mirrors_start⟩
  | tail hsteps hstep ih =>
    obtain ⟨mirror, hmirror, hmirrors⟩ := ih
    obtain ⟨mirror', hmirror', hmirrors'⟩ := hstep.mirrors hsteps hmirrors
    exact ⟨mirror', hmirror.trans hmirror', hmirrors'⟩

/-- Failures do not affect their siblings. The run over the entries that have a unit, in the order
of the catalog, fails nothing and has the units of the run over all entries, in their order. -/
theorem run_survivors (session : Session) :
    session.survivors.run.failures = [] ∧ session.survivors.run.units = session.run.units := by
  obtain ⟨⟨queue, progress⟩, hsteps, hmirrors⟩ := Steps.exists_mirror session.steps_final
  obtain rfl : queue = [] := hmirrors.queue
  obtain rfl := eq_final_of_steps hsteps
  exact ⟨hmirrors.failures, hmirrors.units⟩

end

end ValueShadow.Session
