import ValueShadow.Proofs.Session.Turn
import Mathlib.Data.List.Nodup
import Mathlib.Data.List.TakeWhile
import Mathlib.Logic.Relation

/-!
# The loop of a session

A session works on a queue of entries and appends to it while it takes entries from its front
(`Session.Step`). This loop is deterministic (`Step.deterministic`) and bounded in nothing;
`Session.explore` counts its turns. Counting loses nothing: from a queue of catalog entries the loop
comes to its end, with what `explore` returns, as soon as the turns are as many as the entries of
the catalog without a turn (`steps_explore`). So a run of a session is a run of the loop from the
marked entries to an empty queue (`steps_final`), and the loop cannot go on forever (`acc_start`).
-/

namespace ValueShadow.Session

/-- The loop between two iterations. -/
structure Loop where
  /-- The entries that are still to be looked at. -/
  queue : List ValueClass
  progress : Progress

/-- One iteration of the loop: the first entry of the queue is dropped if its name had its turn;
otherwise it has its turn, and what it leads to is put at the end of the queue. -/
inductive Step (session : Session) : Loop → Loop → Prop where
  | skip {value : ValueClass} {rest : List ValueClass} {progress : Progress} :
      value.name ∈ progress.visited → Step session ⟨value :: rest, progress⟩ ⟨rest, progress⟩
  | turn {value : ValueClass} {rest : List ValueClass} {progress : Progress} :
      value.name ∉ progress.visited →
      Step session ⟨value :: rest, progress⟩
        ⟨rest ++ (session.visit progress value).2, (session.visit progress value).1⟩

/-- Any number of iterations. -/
def Steps (session : Session) : Loop → Loop → Prop :=
  Relation.ReflTransGen session.Step

/-- The loop before its first iteration. -/
def start (session : Session) : Loop :=
  ⟨session.marked, {}⟩

/-- The entries whose names had no turn yet. -/
def unvisited (session : Session) (progress : Progress) : List ValueClass :=
  session.catalog.filter fun value => !progress.visited.contains value.name

section
variable {session : Session}

/-- An entry that is found is an entry of the catalog with that name. -/
theorem mem_of_find? {name : QualifiedName} {value : ValueClass}
    (h : session.find? name = some value) : value ∈ session.catalog ∧ value.name = name :=
  ⟨List.mem_of_find?_eq_some h, by simpa using List.find?_some h⟩

/-- A name is found exactly if an entry of the catalog has it. -/
theorem find?_isSome {name : QualifiedName} :
    (session.find? name).isSome ↔ name ∈ session.catalog.map ValueClass.name := by
  simp only [find?, List.find?_isSome, List.mem_map, beq_iff_eq]

/-- In a catalog without two entries of one name, every entry is found by its name. -/
theorem find?_name (hdistinct : (session.catalog.map ValueClass.name).Nodup) {value : ValueClass}
    (hmem : value ∈ session.catalog) : session.find? value.name = some value := by
  obtain ⟨other, hother⟩ := Option.isSome_iff_exists.1 (find?_isSome.2 (List.mem_map_of_mem hmem))
  obtain ⟨hother', hname⟩ := mem_of_find? hother
  rw [hother, List.inj_on_of_nodup_map hdistinct hother' hmem hname]

/-- A turn puts its value class in front of those that had their turn. -/
theorem visited_visit (session : Session) (progress : Progress) (value : ValueClass) :
    (session.visit progress value).1.visited = value.name :: progress.visited := by
  obtain ⟨_, _, -, h⟩ | ⟨_, _, _, _, -, h⟩ := session.visit_cases progress value
  · rw [h]
  · rw [h]

/-- A turn leads to entries of the catalog. -/
theorem mem_catalog_of_mem_visit {progress : Progress} {value next : ValueClass}
    (h : next ∈ (session.visit progress value).2) : next ∈ session.catalog := by
  obtain ⟨_, _, -, hvisit⟩ | ⟨generated, _, _, _, -, hvisit⟩ := session.visit_cases progress value
  · rw [hvisit] at h
    cases h
  · rw [hvisit] at h
    obtain ⟨_, -, hfind⟩ := List.mem_filterMap.1 h
    exact (mem_of_find? hfind).1

/-! ## The loop comes to its end -/

/-- The loop does one thing at a time. -/
theorem Step.deterministic {loop next next' : Loop} (h : session.Step loop next)
    (h' : session.Step loop next') : next = next' := by
  cases h with
  | skip hmem =>
    cases h' with
    | skip => rfl
    | turn hfresh => exact absurd hmem hfresh
  | turn hfresh =>
    cases h' with
    | skip hmem => exact absurd hmem hfresh
    | turn => rfl

/-- The loop drops the entries that had their turn. -/
theorem steps_append {progress : Progress} {skipped rest : List ValueClass}
    (h : ∀ value ∈ skipped, value.name ∈ progress.visited) :
    session.Steps ⟨skipped ++ rest, progress⟩ ⟨rest, progress⟩ := by
  induction skipped with
  | nil => exact .refl
  | cons value skipped ih =>
    obtain ⟨hvalue, hskipped⟩ := List.forall_mem_cons.1 h
    exact .head (.skip hvalue) (ih hskipped)

/-- The front of the queue is dropped up to the first entry whose name had no turn. -/
theorem steps_dropWhile (queue : List ValueClass) (progress : Progress) :
    session.Steps ⟨queue, progress⟩
      ⟨queue.dropWhile fun value => progress.visited.contains value.name, progress⟩ := by
  have hskipped : ∀ value ∈ queue.takeWhile fun value => progress.visited.contains value.name,
      value.name ∈ progress.visited := by
    intro value hvalue
    simpa using List.mem_takeWhile_imp hvalue
  conv => arg 2; rw [← List.takeWhile_append_dropWhile
    (p := fun value => progress.visited.contains value.name) (l := queue)]
  exact steps_append hskipped

/-- The first entry that is not dropped had no turn. -/
theorem not_mem_of_dropWhile_eq_cons {queue rest : List ValueClass} {progress : Progress}
    {value : ValueClass}
    (h : (queue.dropWhile fun value => progress.visited.contains value.name) = value :: rest) :
    value.name ∉ progress.visited := by
  have hhead := List.head_dropWhile_not
    (fun value : ValueClass => progress.visited.contains value.name)
    (by rw [h]; exact List.cons_ne_nil value rest)
  simp only [h, List.head_cons] at hhead
  simpa using hhead

/-- A turn of an entry of the catalog leaves fewer entries without one. -/
theorem length_unvisited_visit {progress : Progress} {value : ValueClass}
    (hmem : value ∈ session.catalog) (hfresh : value.name ∉ progress.visited) :
    (session.unvisited (session.visit progress value).1).length <
      (session.unvisited progress).length := by
  have hfilter : session.unvisited (session.visit progress value).1 =
      (session.unvisited progress).filter fun other => !decide (other.name = value.name) := by
    simp only [unvisited, visited_visit, List.filter_filter]
    congr 1
    funext other
    simp
  rw [hfilter, List.length_filter_lt_length_iff_exists]
  exact ⟨value, List.mem_filter.2 ⟨hmem, by simpa using hfresh⟩, by simp⟩

/-- The loop comes to its end with the progress that `explore` returns, if the queue holds entries
of the catalog and there are as many turns as entries without one. -/
theorem steps_explore {turns : Nat} {queue : List ValueClass} {progress : Progress}
    (hqueue : ∀ value ∈ queue, value ∈ session.catalog)
    (hturns : (session.unvisited progress).length ≤ turns) :
    session.Steps ⟨queue, progress⟩ ⟨[], session.explore turns queue progress⟩ := by
  induction turns generalizing queue progress with
  | zero =>
    have hvisited : ∀ value ∈ queue, value.name ∈ progress.visited := by
      intro value hvalue
      have hnone := List.eq_nil_of_length_eq_zero (Nat.le_zero.1 hturns)
      simpa using List.filter_eq_nil_iff.1 hnone value (hqueue value hvalue)
    have hsteps : session.Steps ⟨queue ++ [], progress⟩ ⟨[], progress⟩ := steps_append hvisited
    rwa [List.append_nil] at hsteps
  | succ turns ih =>
    rw [explore]
    refine .trans (steps_dropWhile queue progress) ?_
    split
    · next hnil =>
      rw [hnil]
    · next value rest hcons =>
      have hfresh := not_mem_of_dropWhile_eq_cons hcons
      have hrest : ∀ other ∈ value :: rest, other ∈ session.catalog := by
        intro other hother
        rw [← hcons] at hother
        exact hqueue other ((List.dropWhile_sublist _).subset hother)
      rw [hcons]
      refine .head (.turn hfresh) (ih ?_ ?_)
      · intro other hother
        rcases List.mem_append.1 hother with hother | hother
        · exact hrest other (.tail _ hother)
        · exact mem_catalog_of_mem_visit hother
      · have := length_unvisited_visit (hrest value (.head _)) hfresh
        omega

/-- The marked entries are entries of the catalog. -/
theorem mem_catalog_of_mem_marked {value : ValueClass} (h : value ∈ session.marked) :
    value ∈ session.catalog :=
  (List.mem_filter.1 h).1

/-- The loop leads from the marked entries to an empty queue and the final progress. -/
theorem steps_final (session : Session) : session.Steps session.start ⟨[], session.final⟩ := by
  refine steps_explore (fun _ => mem_catalog_of_mem_marked) ?_
  exact List.length_filter_le _ _

/-- A loop that comes to an empty queue does not go on forever. -/
theorem acc_of_steps {loop : Loop} {progress : Progress} (h : session.Steps loop ⟨[], progress⟩) :
    Acc (fun next loop => session.Step loop next) loop := by
  induction h using Relation.ReflTransGen.head_induction_on with
  | refl => exact .intro _ fun next hnext => by cases hnext
  | head hstep _ ih =>
    refine .intro _ fun next hnext => ?_
    rw [hnext.deterministic hstep]
    exact ih

/-- The loop does not go on forever. -/
theorem acc_start (session : Session) :
    Acc (fun next loop => session.Step loop next) session.start :=
  acc_of_steps session.steps_final

end

end ValueShadow.Session
