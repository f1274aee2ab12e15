import ValueShadow.Command.Check
import ValueShadow.Command.Generate
import ValueShadow.Proofs.Session.Ownership

/-!
# Checking a catalog and running it

A check attempts all entries of the catalog in their order, a run attempts the marked ones and what
they lead to. Both let the first entry that claims a class own it, so they may disagree about who
loses a class, but not about whether somebody does: owners keep their classes (`lookup_settleAll`),
so of two entries that claim one class, one fails in every check (`reportsClash_of_claims`). An
entry that cannot be generated fails wherever it is attempted (`mem_checkAll_of_generate`). When
every entry is marked, a run starts with the attempts of a check (`steps_checkFrom`), and there is
nothing left to attempt after them.
-/

namespace ValueShadow

/-- A claim that succeeds leaves its class to its value class, and no owner changes. -/
theorem Owners.lookup_of_claim {owners owners' : Owners} {naming : Naming}
    {generated : GeneratedClass} (h : owners.claim naming generated = .ok owners') :
    owners'.lookup (naming.canonical generated.wrapper.name) = some generated.valueClass ∧
      ∀ name owner, owners.lookup name = some owner → owners'.lookup name = some owner := by
  obtain ⟨hfree, hclaim⟩ | ⟨howned, hclaim⟩ | ⟨_, -, -, hclaim⟩ :=
    owners.claim_cases naming generated
  · cases h.symm.trans hclaim
    refine ⟨by rw [lookup_cons_pair, if_pos rfl], fun name owner howner => ?_⟩
    have hne : name ≠ naming.canonical generated.wrapper.name := by
      rintro rfl
      cases hfree.symm.trans howner
    rw [lookup_cons_pair, if_neg hne, howner]
  · cases h.symm.trans hclaim
    exact ⟨howned, fun _ _ => id⟩
  · cases h.symm.trans hclaim

namespace Session

/-- The entry can be generated, and what is generated claims this class. -/
def Claims (session : Session) (value : ValueClass) (name : QualifiedName) : Prop :=
  ∃ generated, session.generate value = .ok generated ∧ session.claimed generated = name

/-- The check reports the class as ambiguous, for an entry that claims it. -/
def ReportsClash (session : Session) (name : QualifiedName) : Prop :=
  ∃ entry ∈ session.catalog, session.Claims entry name ∧ ∃ owner,
    ⟨entry.name, .ambiguousName name (.claimed owner)⟩ ∈ session.checkAll.1

/-- The owners after an attempt, which stay as they were if it fails. -/
def settle (session : Session) (owners : Owners) (value : ValueClass) : Owners :=
  match session.attempt owners value with
  | .error _ => owners
  | .ok (_, owners) => owners

/-- The owners after one attempt for each of the entries. -/
def settleAll (session : Session) (owners : Owners) (values : List ValueClass) : Owners :=
  values.foldl session.settle owners

section
variable {session : Session} {owners : Owners} {value other : ValueClass}
  {values before middle after : List ValueClass} {name : QualifiedName}

/-! ## Owners -/

/-- An attempt takes no class from its owner. -/
theorem lookup_settle {owner : QualifiedName} (howner : owners.lookup name = some owner)
    (value : ValueClass) : (session.settle owners value).lookup name = some owner := by
  rw [settle]
  split
  · exact howner
  · next hattempt =>
    exact (Owners.lookup_of_claim (attempt_eq_ok.1 hattempt).2).2 name owner howner

/-- No attempt takes a class from its owner. -/
theorem lookup_settleAll {owner : QualifiedName} (howner : owners.lookup name = some owner)
    (values : List ValueClass) : (session.settleAll owners values).lookup name = some owner := by
  induction values generalizing owners with
  | nil => exact howner
  | cons value values ih => exact ih (lookup_settle howner value)

/-- An entry whose class has another owner is ambiguous. -/
theorem attempt_of_owner {owner : QualifiedName} (howner : owners.lookup name = some owner)
    (hclaims : session.Claims value name) (hother : owner ≠ value.name) :
    session.attempt owners value = .error (.ambiguousName name (.claimed owner)) := by
  obtain ⟨generated, hgenerate, rfl⟩ := hclaims
  rw [← valueClass_of_generate hgenerate] at hother
  refine attempt_eq_error.2 (.inr ⟨generated, hgenerate, ?_⟩)
  obtain ⟨hfree, -⟩ | ⟨howned, -⟩ | ⟨_, howned, -, hclaim⟩ :=
    owners.claim_cases session.settings.naming generated
  · cases hfree.symm.trans howner
  · cases howned.symm.trans howner
    exact absurd rfl hother
  · cases howned.symm.trans howner
    exact hclaim

/-- An attempt for an entry that can be generated makes it the owner of its class, or fails because
another value class is the owner. -/
theorem settle_cases (owners : Owners) (hclaims : session.Claims value name) :
    (session.settle owners value).lookup name = some value.name ∨
      ∃ owner, session.attempt owners value = .error (.ambiguousName name (.claimed owner)) := by
  obtain ⟨generated, hgenerate, rfl⟩ := hclaims
  cases hclaim : owners.claim session.settings.naming generated with
  | ok owners' =>
    refine .inl ?_
    rw [settle, attempt_eq_ok.2 ⟨hgenerate, hclaim⟩, ← valueClass_of_generate hgenerate]
    exact (Owners.lookup_of_claim hclaim).1
  | error error =>
    obtain ⟨-, hclaim'⟩ | ⟨-, hclaim'⟩ | ⟨owner, -, -, hclaim'⟩ :=
      owners.claim_cases session.settings.naming generated
    · cases hclaim.symm.trans hclaim'
    · cases hclaim.symm.trans hclaim'
    · exact .inr ⟨owner, attempt_eq_error.2 (.inr ⟨generated, hgenerate, hclaim'⟩)⟩

/-! ## Failures of a check -/

/-- A check reports an entry whose attempt fails and goes on with the same owners. -/
theorem checkFrom_of_error {error : ShadowError}
    (hattempt : session.attempt owners value = .error error) :
    (session.checkFrom owners (value :: values)).1 =
      ⟨value.name, error⟩ :: (session.checkFrom owners values).1 := by
  obtain hgenerate | ⟨generated, hgenerate, hclaim⟩ := attempt_eq_error.1 hattempt
  · simp only [checkFrom, hgenerate]
  · simp only [checkFrom, hgenerate, hclaim]

/-- A check goes on with the owners after an attempt that succeeds. -/
theorem checkFrom_of_ok {generated : GeneratedClass} {owners' : Owners}
    (hattempt : session.attempt owners value = .ok (generated, owners')) :
    (session.checkFrom owners (value :: values)).1 = (session.checkFrom owners' values).1 := by
  obtain ⟨hgenerate, hclaim⟩ := attempt_eq_ok.1 hattempt
  simp only [checkFrom, hgenerate, hclaim]

/-- A check of some entries and then of others goes on with the owners after the first. -/
theorem checkFrom_append (session : Session) (owners : Owners) (before after : List ValueClass) :
    (session.checkFrom owners (before ++ after)).1 =
      (session.checkFrom owners before).1 ++
        (session.checkFrom (session.settleAll owners before) after).1 := by
  induction before generalizing owners with
  | nil => rfl
  | cons value before ih =>
    rw [List.cons_append, settleAll, List.foldl_cons, ← settleAll, settle]
    cases hattempt : session.attempt owners value with
    | error error =>
      rw [checkFrom_of_error hattempt, checkFrom_of_error hattempt, ih, List.cons_append]
    | ok result =>
      rw [checkFrom_of_ok hattempt, checkFrom_of_ok hattempt, ih]

/-- An entry whose attempt fails with the owners after the entries before it is a failure of the
check. -/
theorem mem_checkFrom {error : ShadowError}
    (hattempt : session.attempt (session.settleAll owners before) value = .error error) :
    ⟨value.name, error⟩ ∈ (session.checkFrom owners (before ++ value :: after)).1 := by
  rw [checkFrom_append, checkFrom_of_error hattempt]
  exact List.mem_append_right _ (.head _)

/-- An entry that cannot be generated fails in a check, whoever owns what. -/
theorem mem_checkAll_of_generate {error : ShadowError} (hmem : value ∈ session.catalog)
    (hgenerate : session.generate value = .error error) :
    ⟨value.name, error⟩ ∈ session.checkAll.1 := by
  obtain ⟨before, after, hcatalog⟩ := List.append_of_mem hmem
  rw [checkAll, hcatalog]
  exact mem_checkFrom (attempt_eq_error.2 (.inl hgenerate))

/-- Of two entries of different names that claim one class, the later one fails in a check, if the
earlier one has not failed because someone else owns the class. -/
theorem mem_checkFrom_of_claims (hclaims : session.Claims value name)
    (hclaims' : session.Claims other name) (hne : value.name ≠ other.name) :
    ∃ owner,
      ⟨value.name, .ambiguousName name (.claimed owner)⟩ ∈
          (session.checkFrom owners (before ++ value :: middle ++ other :: after)).1 ∨
        ⟨other.name, .ambiguousName name (.claimed owner)⟩ ∈
          (session.checkFrom owners (before ++ value :: middle ++ other :: after)).1 := by
  obtain hown | ⟨owner, hattempt⟩ := settle_cases (session.settleAll owners before) hclaims
  · refine ⟨value.name, .inr (mem_checkFrom (attempt_of_owner ?_ hclaims' hne))⟩
    rw [settleAll, List.foldl_append, List.foldl_cons]
    exact lookup_settleAll hown middle
  · refine ⟨owner, .inl ?_⟩
    rw [List.append_assoc, List.cons_append]
    exact mem_checkFrom hattempt

/-- Two entries of different names that claim one class make a check report it as ambiguous. -/
theorem reportsClash_of_claims (hmem : value ∈ session.catalog) (hmem' : other ∈ session.catalog)
    (hclaims : session.Claims value name) (hclaims' : session.Claims other name)
    (hne : value.name ≠ other.name) : session.ReportsClash name := by
  have hclash : ∃ owner,
      ⟨value.name, .ambiguousName name (.claimed owner)⟩ ∈ session.checkAll.1 ∨
        ⟨other.name, .ambiguousName name (.claimed owner)⟩ ∈ session.checkAll.1 := by
    obtain ⟨before, after, hcatalog⟩ := List.append_of_mem hmem
    rw [hcatalog] at hmem'
    rw [checkAll, hcatalog]
    -- The other entry stands before the first one or behind it.
    rcases List.mem_append.1 hmem' with hbefore | hafter
    · obtain ⟨first, middle, rfl⟩ := List.append_of_mem hbefore
      obtain ⟨owner, hclash⟩ := mem_checkFrom_of_claims hclaims' hclaims hne.symm
      exact ⟨owner, hclash.symm⟩
    · rcases List.mem_cons.1 hafter with rfl | hafter
      · exact absurd rfl hne
      · obtain ⟨middle, last, rfl⟩ := List.append_of_mem hafter
        rw [← List.cons_append, ← List.append_assoc]
        exact mem_checkFrom_of_claims hclaims hclaims' hne
  obtain ⟨owner, hclash | hclash⟩ := hclash
  · exact ⟨value, hmem, hclaims, owner, hclash⟩
  · exact ⟨other, hmem', hclaims', owner, hclash⟩

/-! ## A check and a run -/

/-- An entry that can be generated and fails at its turn claims the class of a unit that was there
before, so a check reports the class as ambiguous too. -/
theorem HasTurn.reportsClash {before : Progress} (h : session.HasTurn value before)
    {generated : GeneratedClass} (hgenerate : session.generate value = .ok generated)
    {failure : Failure} (hfailure : failure ∈ session.run.failures)
    (hname : value.name = failure.valueClass) :
    (∃ owner, failure.error = .ambiguousName (session.claimed generated) (.claimed owner)) ∧
      session.ReportsClash (session.claimed generated) := by
  obtain ⟨unit, hunit, hother, hclaimed⟩ :=
    (h.failure_iff hgenerate).1 ⟨failure, hfailure, hname.symm⟩
  have herror := h.failure_error hgenerate hunit hother hclaimed hfailure hname.symm
  obtain ⟨entry, hentry, hname', hgenerate'⟩ := h.sound.units unit hunit
  have hclash := reportsClash_of_claims hentry h.mem_catalog ⟨unit, hgenerate', hclaimed⟩
    ⟨generated, hgenerate, rfl⟩ (hname' ▸ hother)
  exact ⟨⟨unit.valueClass, herror⟩, hclash⟩

/-- A failure of a run is that of an entry at its turn. If the entry cannot be generated, a check
reports the same failure. If it can, somebody else owns its class, and a check reports the class as
ambiguous too. -/
theorem failure_cases {failure : Failure} (hfailure : failure ∈ session.run.failures) :
    ∃ value before, session.HasTurn value before ∧ value.name = failure.valueClass ∧
      ((session.generate value = .error failure.error ∧ failure ∈ session.checkAll.1) ∨
        ∃ generated owner, session.generate value = .ok generated ∧
          failure.error = .ambiguousName (session.claimed generated) (.claimed owner) ∧
          session.ReportsClash (session.claimed generated)) := by
  obtain ⟨value, before, hturn, hname, hattempt⟩ := exists_hasTurn_of_failure hfailure
  refine ⟨value, before, hturn, hname, ?_⟩
  obtain hgenerate | ⟨generated, hgenerate, -⟩ := attempt_eq_error.1 hattempt
  · have hmem := mem_checkAll_of_generate hturn.mem_catalog hgenerate
    rw [hname] at hmem
    exact .inl ⟨hgenerate, hmem⟩
  · obtain ⟨⟨owner, herror⟩, hclash⟩ := hturn.reportsClash hgenerate hfailure hname
    exact .inr ⟨generated, owner, hgenerate, herror, hclash⟩

/-- A run fails nothing if a check does not. -/
theorem failures_eq_nil_of_checkAll (h : session.checkAll.1 = []) : session.run.failures = [] := by
  refine List.eq_nil_iff_forall_not_mem.2 fun failure hfailure => ?_
  obtain ⟨_, _, -, -, ⟨-, hmem⟩ | ⟨_, _, -, -, _, -, -, _, hmem⟩⟩ := failure_cases hfailure
  · exact List.not_mem_nil (h ▸ hmem)
  · exact List.not_mem_nil (h ▸ hmem)

/-- Entries in front of the queue that had no turn yet are attempted one after the other, like in a
check. -/
theorem steps_checkFrom (extra : List ValueClass) (progress : Progress)
    (hdistinct : (values.map ValueClass.name).Nodup)
    (hfresh : ∀ value ∈ values, value.name ∉ progress.visited) :
    ∃ found later, session.Steps ⟨values ++ extra, progress⟩ ⟨extra ++ found, later⟩ ∧
      (∀ value ∈ values, value.name ∈ later.visited) ∧
      later.report.failures =
        progress.report.failures ++ (session.checkFrom progress.owners values).1 := by
  induction values generalizing extra progress with
  | nil => exact ⟨[], progress, by rw [List.append_nil]; exact .refl, by simp, by simp [checkFrom]⟩
  | cons value values ih =>
    rw [List.map_cons, List.nodup_cons] at hdistinct
    obtain ⟨hvalue, hvalues⟩ := List.forall_mem_cons.1 hfresh
    have hfresh' : ∀ other ∈ values,
        other.name ∉ (session.visit progress value).1.visited := by
      intro other hother
      rw [visited_visit, List.mem_cons, not_or]
      refine ⟨fun heq => hdistinct.1 ?_, hvalues other hother⟩
      exact heq ▸ List.mem_map_of_mem hother
    obtain ⟨found, later, hsteps, hvisited, hfailures⟩ :=
      ih (extra ++ (session.visit progress value).2) _ hdistinct.2 hfresh'
    have hturn : session.Step ⟨value :: values ++ extra, progress⟩
        ⟨values ++ extra ++ (session.visit progress value).2,
          (session.visit progress value).1⟩ := .turn hvalue
    refine ⟨(session.visit progress value).2 ++ found, later, .head hturn ?_, ?_, ?_⟩
    · rwa [← List.append_assoc, List.append_assoc extra] at hsteps
    · refine List.forall_mem_cons.2 ⟨(Steps.extends hsteps).visited.subset ?_, hvisited⟩
      rw [visited_visit]
      exact .head _
    · rw [hfailures]
      obtain ⟨error, _, hattempt, hvisit⟩ | ⟨_, _, _, _, hattempt, hvisit⟩ :=
        session.visit_cases progress value
      · rw [hvisit, checkFrom_of_error hattempt, List.append_assoc, List.singleton_append]
      · rw [hvisit, checkFrom_of_ok hattempt]

/-- Over marked entries of distinct names, a run and a check fail the same entries in one order. -/
theorem failures_eq_checkAll (hdistinct : (session.catalog.map ValueClass.name).Nodup)
    (hmarked : ∀ value ∈ session.catalog, value.isMarked session.settings.marker = true) :
    session.run.failures = session.checkAll.1 := by
  have hqueue : session.marked = session.catalog := List.filter_eq_self.2 hmarked
  obtain ⟨found, later, hsteps, hvisited, hfailures⟩ :=
    steps_checkFrom [] {} hdistinct (by simp)
  rw [List.append_nil, ← hqueue, List.nil_append] at hsteps
  -- What the turns led to is in the catalog, and the whole catalog had its turn.
  have hfound : ∀ value ∈ found, value.name ∈ later.visited := fun value hvalue =>
    hvisited value ((Steps.sound hsteps session.soundLoop_start).queue value hvalue)
  have hend : session.Steps ⟨found ++ [], later⟩ ⟨[], later⟩ := steps_append hfound
  rw [List.append_nil] at hend
  rw [run, ← eq_final_of_steps (hsteps.trans hend), hfailures]
  rfl

end

/-- A check and a run agree. If a check of a catalog finds nothing, nothing fails in a run. Every
failure of a run is that of an entry at its turn. If this entry cannot be generated, the check
reports the same failure; if it can, its class is owned by another value class, and the check
reports that for the same class, for this entry or for another one that claims it. If the names are
distinct and all entries are marked, the failures of the run and of the check are the same, in one
order. So a generation from a manifest whose check finds nothing fails nothing. -/
theorem check_agrees_with_run :
    (∀ session : Session,
      (session.checkAll.1 = [] → session.run.failures = []) ∧
      (∀ failure ∈ session.run.failures, ∃ value before,
        session.HasTurn value before ∧ value.name = failure.valueClass ∧
        ((session.generate value = .error failure.error ∧ failure ∈ session.checkAll.1) ∨
          ∃ generated owner, session.generate value = .ok generated ∧
            failure.error = .ambiguousName (session.claimed generated) (.claimed owner) ∧
            session.ReportsClash (session.claimed generated))) ∧
      ((session.catalog.map ValueClass.name).Nodup →
        (∀ value ∈ session.catalog, value.isMarked session.settings.marker = true) →
        session.run.failures = session.checkAll.1)) ∧
    ∀ (manifest : Manifest) (directory : String) (format : OutputFormat),
      manifest.check.failures = [] → (manifest.plan directory format).failures = [] := by
  constructor
  · intro session
    exact ⟨failures_eq_nil_of_checkAll, fun failure => failure_cases, failures_eq_checkAll⟩
  · intro manifest directory format h
    obtain ⟨hcatalog, hcheck⟩ := List.append_eq_nil_iff.1 h
    have hrun := failures_eq_nil_of_checkAll (List.map_eq_nil_iff.1 hcheck)
    rw [Manifest.plan, hrun, hcatalog]
    rfl

/-- A class with a property that no shadow class can hold. -/
def nestedLists : ValueClass :=
  markedClass (.ofClass "com.example" "Matrix")
    { properties := [⟨"rows", .collection .list (.collection .list (.primitive .string)), none, []⟩]
      spellable := by decide +kernel
      distinct := by decide }

/-- An unmarked class that a marked one refers to and has its generated class in common with, and
a class that cannot be generated. -/
def disputed : Session :=
  ⟨{}, [
    { name := joinedClass, schema := .empty },
    markedClass innerClass
      { properties := [⟨"peer", .valueRef joinedClass, none, []⟩]
        spellable := by decide +kernel
        distinct := by decide },
    nestedLists]⟩

/-- A manifest with one marked class. -/
def orders : Manifest :=
  ⟨{}, [⟨"com.example.Order", none, none, true, [.bare (.ofDotted ({} : Settings).marker)],
    [⟨"id", "String", none, []⟩, ⟨"next", "Order", none, []⟩]⟩]⟩

/-- The run fails the unmarked class, the check fails the marked one, and both fail the class that
cannot be generated. Where both are marked, run and check fail the same one. -/
theorem check_agrees_with_run_disputed :
    (∃ failure ∈ disputed.run.failures, failure.valueClass = nestedLists.name ∧
      failure ∈ disputed.checkAll.1) ∧
    (∃ failure ∈ disputed.run.failures, failure.valueClass = joinedClass ∧
      (∀ other ∈ disputed.checkAll.1, other.valueClass ≠ joinedClass) ∧
      ∃ name owner, failure.error = .ambiguousName name (.claimed owner) ∧
        disputed.ReportsClash name) ∧
    (joinedAlike.run.failures = joinedAlike.checkAll.1 ∧ joinedAlike.run.failures.length = 1) ∧
    (orders.session.checkAll.1 = [] ∧ orders.session.run.failures = []) ∧
    orders.check.failures = [] ∧ (orders.plan "out" .java).failures = [] ∧
      (orders.plan "out" .java).files.length = 1 := by
  obtain ⟨hsessions, hmanifests⟩ := check_agrees_with_run
  obtain ⟨-, hfailures, -⟩ := hsessions disputed
  have hrun : disputed.run.failures.map (·.valueClass) = [nestedLists.name, joinedClass] := by
    decide +kernel
  have hcheck : disputed.checkAll.1.map (·.valueClass) = [innerClass, nestedLists.name] := by
    decide +kernel
  have hgenerate : ∀ value ∈ disputed.catalog,
      (disputed.generate value).toOption.isSome = (value.name != nestedLists.name) := by
    decide +kernel
  refine ⟨?_, ?_, ?_, ?_, ?_⟩
  · obtain ⟨failure, hmem, hname⟩ := List.mem_map.1
      (hrun ▸ .head _ : nestedLists.name ∈ disputed.run.failures.map (·.valueClass))
    refine ⟨failure, hmem, hname, ?_⟩
    obtain ⟨value, _, hturn, hvalue, ⟨-, hchecked⟩ | ⟨_, _, hgenerated, -⟩⟩ :=
      hfailures failure hmem
    · exact hchecked
    · have hsome := hgenerate value hturn.mem_catalog
      rw [hgenerated, hvalue, hname, bne_self_eq_false] at hsome
      cases hsome
  · obtain ⟨failure, hmem, hname⟩ := List.mem_map.1
      (hrun ▸ .tail _ (.head _) : joinedClass ∈ disputed.run.failures.map (·.valueClass))
    have hunchecked : ∀ other ∈ disputed.checkAll.1, other.valueClass ≠ joinedClass := by
      intro other hother heq
      have hchecked : joinedClass ∈ disputed.checkAll.1.map (·.valueClass) :=
        heq ▸ List.mem_map_of_mem hother
      rw [hcheck] at hchecked
      exact absurd hchecked (by decide)
    refine ⟨failure, hmem, hname, hunchecked, ?_⟩
    obtain ⟨_, _, -, -, ⟨-, hchecked⟩ | ⟨generated, owner, -, herror, hclash⟩⟩ :=
      hfailures failure hmem
    · exact absurd hname (hunchecked failure hchecked)
    · exact ⟨_, owner, herror, hclash⟩
  · obtain ⟨-, -, hsame⟩ := hsessions joinedAlike
    exact ⟨hsame (by decide) (by decide +kernel), by decide +kernel⟩
  · have hnone : orders.session.checkAll.1 = [] := by
      rw [← List.isEmpty_iff]
      decide +kernel
    exact ⟨hnone, (hsessions orders.session).1 hnone⟩
  · have hnone : orders.check.failures = [] := by
      rw [← List.isEmpty_iff]
      decide +kernel
    exact ⟨hnone, hmanifests orders "out" .java hnone, by decide +kernel⟩

end Session

end ValueShadow
