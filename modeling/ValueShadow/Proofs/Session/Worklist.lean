import ValueShadow.Proofs.Session.Invariant
import Mathlib.Order.Bounds.Basic

/-!
# What a run visits, and in which order

The names with a turn are the marked names together with what the units among them lead to
(`Report.follows`), in breadth-first order: the turns of a run are the marked names followed by what
each turn leads to, in the order of the turns and without repeats (`turns_eq_eraseDups`). They are
the least set of names that holds the marked ones and is closed under the references of the units
(`isLeast_names`).
-/

namespace ValueShadow

/-- The names of catalog entries that a turn of this name led to: the found references of its unit,
none if there is no unit. -/
def Report.follows (report : Report) (session : Session) (name : QualifiedName) :
    List QualifiedName :=
  match report.unit? name with
  | none => []
  | some unit => unit.references.filter fun reference => (session.find? reference).isSome

/-- A unit of the first name refers to an entry of the second name. -/
def Report.Refers (report : Report) (session : Session) (name reference : QualifiedName) : Prop :=
  ∃ unit ∈ report.units, unit.valueClass = name ∧ reference ∈ unit.references ∧
    (session.find? reference).isSome

namespace Session

/-- The value classes in the order of their turns. -/
def turns (session : Session) : List QualifiedName :=
  session.final.visited.reverse

/-- The names hold those of the marked entries and every reference of a unit that is found. -/
structure Closed (session : Session) (report : Report) (names : Set QualifiedName) : Prop where
  marked : ∀ value ∈ session.marked, value.name ∈ names
  references : ∀ unit ∈ report.units, ∀ reference ∈ unit.references,
    (session.find? reference).isSome → reference ∈ names

/-- All names of the queue and all that had their turn are among these names. -/
structure Loop.Inside (names : Set QualifiedName) (loop : Loop) : Prop where
  queue : ∀ value ∈ loop.queue, value.name ∈ names
  visited : ∀ name ∈ loop.progress.visited, name ∈ names

/-- The later progress has all turns, units and failures of the earlier one, in the same order. -/
structure Progress.Extends (earlier later : Progress) : Prop where
  visited : earlier.visited <:+ later.visited
  units : earlier.report.units <+: later.report.units
  failures : earlier.report.failures <+: later.report.failures

/-- The turns so far are those of the entries taken from the queue, without repeats; and what was
taken and what is left are the marked names followed by what each turn led to. -/
def Ordered (session : Session) (loop : Loop) : Prop :=
  ∃ taken, taken.eraseDups = loop.progress.visited.reverse ∧
    taken ++ loop.queue.map ValueClass.name =
      session.marked.map ValueClass.name ++
        loop.progress.visited.reverse.flatMap (loop.progress.report.follows session)

section
variable {session : Session} {progress : Progress} {value : ValueClass}

/-! ## What stays -/

/-- Iterations only ever add turns, units and failures. -/
theorem Steps.extends {loop next : Loop} (h : session.Steps loop next) :
    loop.progress.Extends next.progress := by
  induction h with
  | refl => exact ⟨List.suffix_refl _, List.prefix_refl _, List.prefix_refl _⟩
  | tail _ hstep ih =>
    cases hstep with
    | skip => exact ih
    | @turn value _ progress _ =>
      have hvisited := ih.visited.trans (List.suffix_cons value.name progress.visited)
      obtain ⟨_, _, -, hvisit⟩ | ⟨_, _, _, _, -, hvisit⟩ := session.visit_cases progress value
      · rw [hvisit]
        exact ⟨hvisited, ih.units, ih.failures.trans (List.prefix_append _ _)⟩
      · rw [hvisit]
        exact ⟨hvisited, ih.units.trans (List.prefix_append _ _), ih.failures⟩

/-- Whatever the loop got to goes on to the end of the run. -/
theorem Steps.steps_final {loop : Loop} (h : session.Steps session.start loop) :
    session.Steps loop ⟨[], session.final⟩ := by
  induction h with
  | refl => exact session.steps_final
  | tail _ hstep ih =>
    cases ih using Relation.ReflTransGen.head_induction_on with
    | refl => cases hstep
    | head hstep' hrest _ =>
      rw [hstep.deterministic hstep']
      exact hrest

/-- The loop comes to an empty queue with the final progress only. -/
theorem eq_final_of_steps {progress : Progress} (h : session.Steps session.start ⟨[], progress⟩) :
    progress = session.final := by
  have hrest := Steps.steps_final h
  cases hrest using Relation.ReflTransGen.head_induction_on with
  | refl => rfl
  | head hstep => cases hstep

/-! ## The order of the turns -/

/-- What a turn of a visited name leads to does not depend on the later units. -/
theorem follows_append {units : List GeneratedClass} {failures failures' : List Failure}
    {events events' : List Event} {generated : GeneratedClass} {name : QualifiedName}
    (hname : name ≠ generated.valueClass) :
    Report.follows ⟨units ++ [generated], failures', events'⟩ session name =
      Report.follows ⟨units, failures, events⟩ session name := by
  have hunit : Report.unit? ⟨units ++ [generated], failures', events'⟩ name =
      Report.unit? ⟨units, failures, events⟩ name := by
    simp [Report.unit?, List.find?_append, hname.symm]
  rw [Report.follows, hunit]
  rfl

/-- A name without a turn has no unit. -/
theorem Sound.unit?_eq_none (h : session.Sound progress) {name : QualifiedName}
    (hfresh : name ∉ progress.visited) : progress.report.unit? name = none := by
  rw [Report.unit?, List.find?_eq_none]
  intro unit hunit heq
  have heq : unit.valueClass = name := by simpa using heq
  refine hfresh (h.mem_visited.2 (List.mem_append_left _ ?_))
  exact heq ▸ List.mem_map_of_mem hunit

/-- The entries that references are found as have the names of the references. -/
theorem map_name_filterMap_find? (references : List QualifiedName) :
    (references.filterMap session.find?).map ValueClass.name =
      references.filter fun reference => (session.find? reference).isSome := by
  induction references with
  | nil => rfl
  | cons reference references ih =>
    cases h : session.find? reference with
    | none => simp [h, ih]
    | some value =>
      obtain ⟨-, hname⟩ := mem_of_find? h
      simp [h, ih, hname]

/-- A fresh turn leads to what it puts at the end of the queue, and the turns before it lead to what
they did. -/
theorem Sound.flatMap_follows_visit (h : session.Sound progress)
    (hfresh : value.name ∉ progress.visited) :
    (session.visit progress value).1.visited.reverse.flatMap
        ((session.visit progress value).1.report.follows session) =
      progress.visited.reverse.flatMap (progress.report.follows session) ++
        (session.visit progress value).2.map ValueClass.name := by
  obtain ⟨error, events, -, hvisit⟩ | ⟨generated, owners, missing, events, hattempt, hvisit⟩ :=
    session.visit_cases progress value
  · rw [hvisit]
    simp only [List.reverse_cons, List.flatMap_append, List.flatMap_singleton]
    congr 1
    have hnone := h.unit?_eq_none hfresh
    simp only [Report.follows, Report.unit?] at hnone ⊢
    rw [hnone]
    rfl
  · obtain ⟨hgenerate, -⟩ := attempt_eq_ok.1 hattempt
    have hvalue := valueClass_of_generate hgenerate
    rw [hvisit]
    simp only [List.reverse_cons, List.flatMap_append, List.flatMap_singleton]
    congr 1
    · refine List.flatMap_congr fun name hname => ?_
      have hother : name ≠ generated.valueClass := by
        rintro rfl
        exact hfresh (hvalue ▸ List.mem_reverse.1 hname)
      exact follows_append hother
    · have hnone := h.unit?_eq_none hfresh
      have hunit : (progress.report.units ++ [generated]).find? (·.valueClass == value.name) =
          some generated := by
        rw [Report.unit?] at hnone
        simp [List.find?_append, hnone, hvalue]
      simp only [Report.follows, Report.unit?, hunit]
      exact (map_name_filterMap_find? _).symm

/-- The loop starts in order. -/
theorem ordered_start (session : Session) : session.Ordered session.start :=
  ⟨[], rfl, by simp [start]⟩

/-- One iteration keeps the order. -/
theorem Step.ordered {loop next : Loop} (h : session.Step loop next)
    (hsound : session.SoundLoop loop) (hordered : session.Ordered loop) :
    session.Ordered next := by
  obtain ⟨taken, hturns, hqueue⟩ := hordered
  cases h with
  | @skip value rest progress hmem =>
    refine ⟨taken ++ [value.name], ?_, ?_⟩
    · rw [eraseDups_append_of_mem, hturns]
      rw [← List.mem_eraseDups, hturns]
      exact List.mem_reverse.2 hmem
    · simpa using hqueue
  | @turn value rest progress hfresh =>
    refine ⟨taken ++ [value.name], ?_, ?_⟩
    · rw [eraseDups_append_singleton, hturns, visited_visit, List.reverse_cons]
      rw [← List.mem_eraseDups, hturns]
      simpa using hfresh
    · have hfollows := hsound.progress.flatMap_follows_visit hfresh
      simp only at hqueue hfollows ⊢
      rw [hfollows, ← List.append_assoc, ← hqueue]
      simp

/-- Any number of iterations keep the order. -/
theorem Steps.ordered {loop next : Loop} (h : session.Steps loop next)
    (hsound : session.SoundLoop loop) (hordered : session.Ordered loop) : session.Ordered next := by
  induction h with
  | refl => exact hordered
  | tail hsteps hstep ih => exact hstep.ordered (Steps.sound hsteps hsound) ih

/-- The turns of a run are breadth first: the marked names followed by what each turn led to, in the
order of the turns and without repeats. -/
theorem turns_eq_eraseDups (session : Session) :
    session.turns =
      (session.marked.map ValueClass.name ++
        session.turns.flatMap (session.run.follows session)).eraseDups := by
  obtain ⟨taken, hturns, hqueue⟩ :=
    Steps.ordered session.steps_final session.soundLoop_start session.ordered_start
  rw [List.map_nil, List.append_nil] at hqueue
  rw [hqueue] at hturns
  exact hturns.symm

/-! ## The names with a turn -/

/-- The names with a turn are those of the units and failures. -/
theorem mem_turns {name : QualifiedName} : name ∈ session.turns ↔ name ∈ session.run.names := by
  rw [turns, List.mem_reverse]
  exact session.sound_final.mem_visited

/-- What a turn leads to is referred to by the unit of the turn, if the units after it stay. -/
theorem refers_of_mem_visit {next : ValueClass}
    (hunits : (session.visit progress value).1.report.units <+: session.run.units)
    (hnext : next ∈ (session.visit progress value).2) :
    session.run.Refers session value.name next.name := by
  obtain ⟨_, _, -, hvisit⟩ | ⟨generated, _, _, _, hattempt, hvisit⟩ :=
    session.visit_cases progress value
  · rw [hvisit] at hnext
    cases hnext
  · rw [hvisit] at hnext hunits
    obtain ⟨reference, hreference, hfind⟩ := List.mem_filterMap.1 hnext
    obtain ⟨-, rfl⟩ := mem_of_find? hfind
    have hgenerated := hunits.subset (List.mem_append_right _ (.head _))
    have hname := valueClass_of_generate (attempt_eq_ok.1 hattempt).1
    exact ⟨generated, hgenerated, hname, hreference, by rw [hfind]; rfl⟩

/-- An iteration on the way to the end of the run stays inside a set of names that holds, with the
name of a unit, the references of the unit that are found. -/
theorem Step.inside {names : Set QualifiedName} {loop next : Loop} (h : session.Step loop next)
    (hrest : session.Steps next ⟨[], session.final⟩)
    (hrefers : ∀ name reference, session.run.Refers session name reference → name ∈ names →
      reference ∈ names)
    (hinside : loop.Inside names) : next.Inside names := by
  obtain ⟨hqueue, hvisited⟩ := hinside
  cases h with
  | skip => exact ⟨fun value hvalue => hqueue value (.tail _ hvalue), hvisited⟩
  | @turn value rest progress hfresh =>
    have hvalue := hqueue value (.head _)
    refine ⟨fun next hnext => ?_, fun name hname => ?_⟩
    · rcases List.mem_append.1 hnext with hold | hnew
      · exact hqueue next (.tail _ hold)
      · have hunits := (Steps.extends hrest).units
        exact hrefers value.name next.name (refers_of_mem_visit hunits hnew) hvalue
    · rw [visited_visit] at hname
      rcases List.mem_cons.1 hname with rfl | hold
      · exact hvalue
      · exact hvisited name hold

/-- Every name with a turn is in a set that holds the marked names and, with the name of a unit, the
references of the unit that are found. -/
theorem mem_of_mem_names {names : Set QualifiedName}
    (hmarked : ∀ value ∈ session.marked, value.name ∈ names)
    (hrefers : ∀ name reference, session.run.Refers session name reference → name ∈ names →
      reference ∈ names)
    {name : QualifiedName} (hname : name ∈ session.run.names) : name ∈ names := by
  have hfinal : ∀ loop, session.Steps loop ⟨[], session.final⟩ → loop.Inside names →
      Loop.Inside names ⟨[], session.final⟩ := by
    intro loop hsteps
    induction hsteps using Relation.ReflTransGen.head_induction_on with
    | refl => exact id
    | head hstep hrest ih => exact fun hinside => ih (hstep.inside hrest hrefers hinside)
  have hstart : session.start.Inside names := ⟨hmarked, by simp [start]⟩
  have hvisited := (hfinal session.start session.steps_final hstart).visited
  exact hvisited name (List.mem_reverse.1 (mem_turns.2 hname))

/-- A name has a turn exactly if it is a marked one or what another turn led to. -/
theorem mem_names_iff {name : QualifiedName} :
    name ∈ session.run.names ↔
      name ∈ session.marked.map ValueClass.name ∨
        ∃ visited ∈ session.run.names, name ∈ session.run.follows session visited := by
  rw [← mem_turns, turns_eq_eraseDups, List.mem_eraseDups, List.mem_append, List.mem_flatMap]
  simp only [mem_turns]

/-- The units of a run have distinct value classes, so each is found by its own. -/
theorem unit?_eq_some {unit : GeneratedClass} (hunit : unit ∈ session.run.units) :
    session.run.unit? unit.valueClass = some unit := by
  have hdistinct : (session.run.units.map (·.valueClass)).Nodup :=
    (List.nodup_append.1 session.nodup_names).1
  obtain ⟨before, after, h⟩ := List.append_of_mem hunit
  rw [h, List.map_append, List.map_cons, List.nodup_append] at hdistinct
  have hother : ∀ other ∈ before, other.valueClass ≠ unit.valueClass := fun other hother =>
    hdistinct.2.2 _ (List.mem_map_of_mem hother) _ (.head _)
  rw [Report.unit?, h, List.find?_append, List.find?_eq_none.2 (by simpa using hother)]
  simp

/-- A reference of a unit that is found had its turn. -/
theorem mem_names_of_reference {unit : GeneratedClass} (hunit : unit ∈ session.run.units)
    {reference : QualifiedName} (hreference : reference ∈ unit.references)
    (hfind : (session.find? reference).isSome) : reference ∈ session.run.names := by
  refine mem_names_iff.2 (.inr ⟨unit.valueClass, ?_, ?_⟩)
  · exact List.mem_append_left _ (List.mem_map_of_mem hunit)
  · rw [Report.follows, unit?_eq_some hunit]
    exact List.mem_filter.2 ⟨hreference, hfind⟩

/-- In a run without failures, a reference of a unit that is found has a unit itself. -/
theorem exists_unit_of_reference (hsuccess : session.run.isSuccess = true)
    {unit : GeneratedClass} (hunit : unit ∈ session.run.units) {reference : QualifiedName}
    (hreference : reference ∈ unit.references) (hfind : (session.find? reference).isSome) :
    ∃ other ∈ session.run.units, other.valueClass = reference := by
  have hfailures : session.run.failures = [] := List.isEmpty_iff.1 hsuccess
  have hname := mem_names_of_reference hunit hreference hfind
  rwa [Report.names, hfailures, List.map_nil, List.append_nil, List.mem_map] at hname

/-- The names with a turn are the least set that holds the marked names and every reference of a
unit that is found. -/
theorem isLeast_names (session : Session) :
    IsLeast {names | session.Closed session.run names} {name | name ∈ session.run.names} := by
  refine ⟨⟨fun value hvalue => ?_, fun unit hunit reference => ?_⟩, fun names hclosed name => ?_⟩
  · exact mem_names_iff.2 (.inl (List.mem_map_of_mem hvalue))
  · exact mem_names_of_reference hunit
  · refine mem_of_mem_names hclosed.marked ?_
    rintro _ reference ⟨unit, hunit, -, hreference, hfind⟩ -
    exact hclosed.references unit hunit reference hreference hfind

/-- Every name with a turn is reached from a marked entry along references of units. -/
theorem exists_marked_reaches {name : QualifiedName} (hname : name ∈ session.run.names) :
    ∃ value ∈ session.marked,
      Relation.ReflTransGen (session.run.Refers session) value.name name := by
  let reached : Set QualifiedName := {name | ∃ value ∈ session.marked,
    Relation.ReflTransGen (session.run.Refers session) value.name name}
  have hmem : name ∈ reached := by
    refine mem_of_mem_names ?_ ?_ hname
    · exact fun value hvalue => ⟨value, hvalue, .refl⟩
    · rintro _ reference hrefers ⟨value, hvalue, hreaches⟩
      exact ⟨value, hvalue, hreaches.tail hrefers⟩
  exact hmem

/-- The marked names have the first turns, in catalog order and each once. -/
theorem marked_prefix_turns (session : Session) :
    (session.marked.map ValueClass.name).eraseDups <+: session.turns := by
  rw [turns_eq_eraseDups, List.eraseDups_append]
  exact List.prefix_append _ _

/-- A run is exact. Its loop ends, with an empty queue and the report of the run. No value class is
in the report twice; the value classes in it are the least set that holds the marked names and every
reference of a unit that is found, and each is reached from a marked entry along references of
units. A unit is what an entry of its name generates, and a failure is that of an entry. The turns
are the value classes of the report, with the units and the failures in their order; they are
breadth first, and the marked names, in catalog order and each once, come first. -/
theorem run_exact (session : Session) :
    Acc (fun next loop => session.Step loop next) session.start ∧
      session.Steps session.start ⟨[], session.final⟩ ∧ session.final.report = session.run ∧
    session.run.names.Nodup ∧
    IsLeast {names | session.Closed session.run names} {name | name ∈ session.run.names} ∧
    (∀ name ∈ session.run.names, ∃ value ∈ session.marked,
      Relation.ReflTransGen (session.run.Refers session) value.name name) ∧
    (∀ unit ∈ session.run.units, ∃ value ∈ session.catalog,
      value.name = unit.valueClass ∧ session.generate value = .ok unit) ∧
    (∀ failure ∈ session.run.failures, ∃ value ∈ session.catalog,
      value.name = failure.valueClass) ∧
    session.turns.Perm session.run.names ∧
      (session.run.units.map (·.valueClass)).Sublist session.turns ∧
      (session.run.failures.map (·.valueClass)).Sublist session.turns ∧
    session.turns =
      (session.marked.map ValueClass.name ++
        session.turns.flatMap (session.run.follows session)).eraseDups ∧
    (session.marked.map ValueClass.name).eraseDups <+: session.turns := by
  have hsound := session.sound_final
  refine ⟨session.acc_start, session.steps_final, rfl, session.nodup_names,
    session.isLeast_names, fun _ => exists_marked_reaches, hsound.units, hsound.failures, ?_,
    hsound.unitOrder, hsound.failureOrder, session.turns_eq_eraseDups, session.marked_prefix_turns⟩
  exact (List.reverse_perm _).trans hsound.names.symm

end

end Session

end ValueShadow
