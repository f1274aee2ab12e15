import ValueShadow.Files.FileTree
import ValueShadow.Proofs.Files.Path
import ValueShadow.Proofs.Lookup
import ValueShadow.Proofs.Result

/-!
# Directories of a file tree

What is put at a place is found there and changes nothing elsewhere (`node?_put_self`,
`node?_put_of_ne`). A way from a place is followed step by step: it leads on where directories stand
all along it (`follow_steps`), and if no file stands in the way, one of them is missing otherwise
(`follow_cases`). Then the directories that are missing can be made, and nothing else changes
(`exists_makeDirectories`).
-/

namespace ValueShadow.FileTree

open ValueShadow.Path

variable {tree tree' : FileTree} {place other : Place} {node : FileNode}

/-! ## Nodes -/

@[simp]
theorem working_put (tree : FileTree) (place : Place) (node : FileNode) :
    (tree.put place node).working = tree.working := by
  rw [put]
  split <;> rfl

/-- What is put in the place of the pairs of a key is found for the key. -/
theorem lookup_replace_self {nodes : List (Place × FileNode)} (h : (nodes.lookup place).isSome) :
    (nodes.map fun entry => if entry.1 = place then (place, node) else entry).lookup place =
      some node := by
  induction nodes with
  | nil => cases h
  | cons entry nodes ih =>
    rw [List.map_cons, lookup_cons_pair]
    rw [lookup_cons_pair] at h
    by_cases hentry : entry.1 = place
    · rw [if_pos hentry, if_pos rfl]
    · rw [if_neg (Ne.symm hentry)] at h
      rw [if_neg hentry, if_neg (Ne.symm hentry), ih h]

/-- What is put in the place of the pairs of a key changes nothing for the other keys. -/
theorem lookup_replace_of_ne {nodes : List (Place × FileNode)} (h : other ≠ place) :
    (nodes.map fun entry => if entry.1 = place then (place, node) else entry).lookup other =
      nodes.lookup other := by
  induction nodes with
  | nil => rfl
  | cons entry nodes ih =>
    rw [List.map_cons, lookup_cons_pair, lookup_cons_pair, ih]
    by_cases hentry : entry.1 = place
    · rw [if_pos hentry, if_neg h, if_neg (hentry ▸ h)]
    · rw [if_neg hentry]

/-- What is put at a place other than the root is found there. -/
theorem node?_put_self (hne : place ≠ []) : (tree.put place node).node? place = some node := by
  rw [node?, if_neg (mt List.isEmpty_iff.1 hne), put]
  split
  · next h => exact lookup_replace_self h
  · next h =>
    rw [Option.not_isSome_iff_eq_none] at h
    rw [List.lookup_append, h]
    simp

/-- What is put at a place changes nothing at the other places. -/
theorem node?_put_of_ne (h : other ≠ place) :
    (tree.put place node).node? other = tree.node? other := by
  rw [node?, node?]
  by_cases hroot : other.isEmpty
  · rw [if_pos hroot, if_pos hroot]
  · rw [if_neg hroot, if_neg hroot, put]
    split
    · exact lookup_replace_of_ne h
    · have hlookup : [(place, node)].lookup other = none := by
        rw [lookup_cons_pair, if_neg h, List.lookup_nil]
      rw [List.lookup_append, hlookup, Option.or_none]

/-! ## Ways -/

/-- The name is allowed and does not lead to the directory above. -/
structure IsStep (name : String) : Prop where
  notUp : name ≠ ".."
  isName : isName name = true

/-- Two ways one after the other. -/
theorem follow_append (tree : FileTree) (place : Place) (first second : List String) :
    tree.follow place (first ++ second) =
      (tree.follow place first).bind fun reached => tree.follow reached second := by
  induction first generalizing place with
  | nil => rfl
  | cons component first ih =>
    rw [List.cons_append, follow, follow]
    split
    · exact ih _
    · split
      · rfl
      · split
        · exact ih _
        · rfl
        · rfl

/-- Where all directories are still there, a way leads to the same place. -/
theorem follow_mono {components : List String} {reached : Place}
    (hkeeps : ∀ other, tree.node? other = some .directory → tree'.node? other = some .directory)
    (h : tree.follow place components = .ok reached) :
    tree'.follow place components = .ok reached := by
  induction components generalizing place with
  | nil => exact h
  | cons component components ih =>
    rw [follow] at h ⊢
    split at h
    · next hup =>
      rw [if_pos hup]
      exact ih h
    · next hup =>
      rw [if_neg hup]
      split at h
      · cases h
      · next hname =>
        rw [if_neg hname]
        split at h
        · next hnode =>
          rw [hkeeps _ hnode]
          exact ih h
        · cases h
        · cases h

/-- The components of a way are allowed names or lead to the directory above. -/
theorem isName_of_follow {components : List String} {reached : Place}
    (h : tree.follow place components = .ok reached) {component : String}
    (hcomponent : component ∈ components) : component = ".." ∨ isName component = true := by
  induction components generalizing place with
  | nil => cases hcomponent
  | cons first components ih =>
    rw [follow] at h
    split at h
    · next hup =>
      rcases List.mem_cons.1 hcomponent with rfl | hmem
      · exact .inl hup
      · exact ih h hmem
    · split at h
      · cases h
      · next hname =>
        split at h
        · rcases List.mem_cons.1 hcomponent with rfl | hmem
          · exact .inr (by simpa using hname)
          · exact ih h hmem
        · cases h
        · cases h

variable {steps : List String}

/-- Where directories stand all along the steps, they lead on. -/
theorem follow_steps (hsteps : ∀ step ∈ steps, IsStep step)
    (h : ∀ way, way ≠ [] → way <+: steps → tree.node? (place ++ way) = some .directory) :
    tree.follow place steps = .ok (place ++ steps) := by
  induction steps generalizing place with
  | nil => rw [follow, List.append_nil]
  | cons step steps ih =>
    obtain ⟨hstep, hsteps⟩ := List.forall_mem_cons.1 hsteps
    have hnode := h [step] (List.cons_ne_nil _ _) ⟨steps, rfl⟩
    have hreached : tree.follow (place ++ [step]) steps = .ok (place ++ [step] ++ steps) :=
      ih hsteps fun way _ hway => by
        rw [List.append_assoc]
        exact h (step :: way) (List.cons_ne_nil _ _) (List.cons_prefix_cons.2 ⟨rfl, hway⟩)
    rw [follow, if_neg hstep.notUp, if_neg (by simp [hstep.isName]), hnode]
    rwa [List.append_assoc] at hreached

/-- Where no file stands along the steps, directories stand all along them or one is missing. -/
theorem follow_cases (hsteps : ∀ step ∈ steps, IsStep step)
    (h : ∀ way, way ≠ [] → way <+: steps →
      ∀ content, tree.node? (place ++ way) ≠ some (.file content)) :
    (∀ way, way ≠ [] → way <+: steps → tree.node? (place ++ way) = some .directory) ∨
      tree.follow place steps = .error .missing := by
  induction steps generalizing place with
  | nil => exact .inl fun way hne hway => absurd (List.prefix_nil.1 hway) hne
  | cons step steps ih =>
    obtain ⟨hstep, hsteps⟩ := List.forall_mem_cons.1 hsteps
    rw [follow, if_neg hstep.notUp, if_neg (by simp [hstep.isName])]
    cases hnode : tree.node? (place ++ [step]) with
    | none => exact .inr rfl
    | some node =>
      cases node with
      | file content =>
        exact absurd hnode (h [step] (List.cons_ne_nil _ _) ⟨steps, rfl⟩ content)
      | directory =>
        have hfiles : ∀ way, way ≠ [] → way <+: steps →
            ∀ content, tree.node? (place ++ [step] ++ way) ≠ some (.file content) := by
          intro way _ hway
          rw [List.append_assoc]
          exact h (step :: way) (List.cons_ne_nil _ _) (List.cons_prefix_cons.2 ⟨rfl, hway⟩)
        obtain hways | hmissing := ih hsteps hfiles
        · refine .inl fun way hne hway => ?_
          obtain ⟨first, others, rfl⟩ := List.exists_cons_of_ne_nil hne
          obtain ⟨rfl, hothers⟩ := List.cons_prefix_cons.1 hway
          by_cases hnil : others = []
          · rw [hnil, hnode]
          · have hdirectory := hways others hnil hothers
            rwa [List.append_assoc] at hdirectory
        · exact .inr hmissing

/-! ## Making directories -/

/-- The tree has directories along the steps from the place, and nothing else changed. -/
structure HasWay (tree : FileTree) (place : Place) (steps : List String) (tree' : FileTree) :
    Prop where
  working : tree'.working = tree.working
  way : ∀ way, way ≠ [] → way <+: steps → tree'.node? (place ++ way) = some .directory
  rest : ∀ other, (∀ way, way ≠ [] → way <+: steps → other ≠ place ++ way) →
    tree'.node? other = tree.node? other

/-- The only way along one step is this step. -/
theorem eq_of_prefix_singleton {step : String} {way : Place} (hne : way ≠ [])
    (hway : way <+: [step]) : way = [step] := by
  obtain ⟨first, others, rfl⟩ := List.exists_cons_of_ne_nil hne
  obtain ⟨rfl, hothers⟩ := List.cons_prefix_cons.1 hway
  rw [List.prefix_nil.1 hothers]

/-- A way goes nowhere behind its end. -/
theorem concat_ne_of_onWay {last : String} {way : Place} (hway : way <+: steps) :
    steps ++ [last] ≠ way := by
  rintro rfl
  have hlength := hway.length_le
  rw [List.length_append, List.length_singleton] at hlength
  omega

/-- What is a step behind the end of a way is not on it. -/
theorem append_concat_ne {last : String} {way : Place} (hway : way <+: steps) :
    place ++ steps ++ [last] ≠ place ++ way := by
  rw [List.append_assoc]
  exact mt List.append_cancel_left (concat_ne_of_onWay hway)

/-- Nothing has to be made where directories stand all along the steps. -/
theorem hasWay_self
    (h : ∀ way, way ≠ [] → way <+: steps → tree.node? (place ++ way) = some .directory) :
    tree.HasWay place steps tree :=
  ⟨rfl, h, fun _ _ => rfl⟩

/-- A directory that is put at the end of a step is the way of that step. -/
theorem hasWay_put (tree : FileTree) (place : Place) (step : String) :
    tree.HasWay place [step] (tree.put (place ++ [step]) .directory) where
  working := working_put _ _ _
  way way hne hway := by
    rw [eq_of_prefix_singleton hne hway]
    exact node?_put_self (List.append_ne_nil_of_right_ne_nil _ (List.cons_ne_nil _ _))
  rest other hother :=
    node?_put_of_ne (hother [step] (List.cons_ne_nil _ _) List.prefix_rfl)

/-- Directories stay where a way is made. -/
theorem HasWay.keeps (h : tree.HasWay place steps tree') (other : Place)
    (hother : tree.node? other = some .directory) : tree'.node? other = some .directory := by
  by_cases hway : ∃ way, way ≠ [] ∧ way <+: steps ∧ other = place ++ way
  · obtain ⟨way, hne, hway, rfl⟩ := hway
    exact h.way way hne hway
  · rw [h.rest other fun way hne hway' heq => hway ⟨way, hne, hway', heq⟩, hother]

/-- A way goes on with another step. -/
theorem HasWay.concat {last : String} {tree'' : FileTree} (h : tree.HasWay place steps tree')
    (hlast : tree'.HasWay (place ++ steps) [last] tree'') :
    tree.HasWay place (steps ++ [last]) tree'' := by
  refine ⟨hlast.working.trans h.working, fun way hne hway => ?_, fun other hother => ?_⟩
  · obtain rfl | hway := List.prefix_concat_iff.1 hway
    · rw [← List.append_assoc]
      exact hlast.way [last] (List.cons_ne_nil _ _) List.prefix_rfl
    · rw [hlast.rest, h.way way hne hway]
      intro way' hne' hway'
      rw [eq_of_prefix_singleton hne' hway']
      exact (append_concat_ne hway).symm
  · rw [hlast.rest, h.rest]
    · exact fun way hne hway => hother way hne (hway.trans (List.prefix_append _ _))
    · intro way hne hway
      rw [eq_of_prefix_singleton hne hway, List.append_assoc]
      exact hother _ (List.append_ne_nil_of_right_ne_nil _ (List.cons_ne_nil _ _)) List.prefix_rfl

/-- A directory is made exactly if the way before it leads to a directory, and its name is a step to
nothing there. -/
theorem makeDirectory_cons (tree : FileTree) (place : Place) (last : String)
    (before : List String) :
    tree.makeDirectory place (last :: before) =
      (tree.follow place before.reverse).bind fun directory =>
        if last = ".." ∨ !isName last ∨ (tree.node? (directory ++ [last])).isSome then
          .error .refused
        else
          .ok (tree.put (directory ++ [last]) .directory) := by
  rw [makeDirectory]
  cases tree.follow place before.reverse with
  | error e => rfl
  | ok directory =>
    simp only [bind, Except.bind]
    split
    · rfl
    · rfl

/-- A directory that is there is not made again. -/
theorem makeDirectory_of_exists {last : String} {before : List String} {reached : Place}
    (h : tree.follow place (last :: before).reverse = .ok reached) :
    tree.makeDirectory place (last :: before) = .error .refused := by
  rw [List.reverse_cons, follow_append] at h
  rw [makeDirectory_cons]
  cases hbefore : tree.follow place before.reverse with
  | error e =>
    rw [hbefore] at h
    cases h
  | ok directory =>
    rw [hbefore] at h
    refine if_pos ?_
    simp only [Except.bind, follow] at h
    split at h
    · next hup => exact .inl hup
    · split at h
      · next hname => exact .inr (.inl hname)
      · refine .inr (.inr ?_)
        split at h
        · next hnode => rw [hnode]; rfl
        · cases h
        · cases h

/-- Something leads to a directory if it can be followed. -/
theorem leadsToDirectory_of_follow {reversed : List String} {reached : Place}
    (h : tree.follow place reversed.reverse = .ok reached) :
    tree.leadsToDirectory place reversed = true := by
  rw [leadsToDirectory, h]
  rfl

/-- Making the directories of a way that exists changes nothing. -/
theorem makeDirectories_of_exists {reversed : List String} {reached : Place}
    (h : tree.follow place reversed.reverse = .ok reached) :
    tree.makeDirectories place reversed = some tree := by
  cases reversed with
  | nil => rfl
  | cons last before =>
    rw [makeDirectories, makeDirectory_of_exists h]
    exact if_pos (leadsToDirectory_of_follow h)

/-- At the end of a way, a step to no file is made, or it leads to a directory. -/
theorem exists_makeDirectory {start : Place} {last : String} {before : List String}
    (hbefore : tree.follow start before.reverse = .ok place) (hlast : IsStep last)
    (h : ∀ content, tree.node? (place ++ [last]) ≠ some (.file content)) :
    ∃ tree', tree.HasWay place [last] tree' ∧
      (tree.makeDirectory start (last :: before) = .ok tree' ∨
        tree' = tree ∧ tree.makeDirectory start (last :: before) = .error .refused ∧
          tree.leadsToDirectory start (last :: before) = true) := by
  cases hnode : tree.node? (place ++ [last]) with
  | none =>
    refine ⟨_, hasWay_put tree place last, .inl ?_⟩
    rw [makeDirectory_cons, hbefore]
    simp [Except.bind, hlast.notUp, hlast.isName, hnode]
  | some node =>
    cases node with
    | file content => exact absurd hnode (h content)
    | directory =>
      have hways : ∀ way, way ≠ [] → way <+: [last] →
          tree.node? (place ++ way) = some .directory := by
        intro way hne hway
        rw [eq_of_prefix_singleton hne hway, hnode]
      have hfollow : tree.follow start (last :: before).reverse = .ok (place ++ [last]) := by
        rw [List.reverse_cons, follow_append, hbefore]
        exact follow_steps (by simpa using hlast) hways
      exact ⟨tree, hasWay_self hways,
        .inr ⟨rfl, makeDirectory_of_exists hfollow, leadsToDirectory_of_follow hfollow⟩⟩

/-- If the components lead to a place from which no file stands along the steps, the directories of
the steps can be made. -/
theorem exists_makeDirectories {start : Place} {components : List String}
    (hlead : tree.follow start components = .ok place) (hsteps : ∀ step ∈ steps, IsStep step)
    (h : ∀ way, way ≠ [] → way <+: steps →
      ∀ content, tree.node? (place ++ way) ≠ some (.file content)) :
    ∃ tree', tree.makeDirectories start (components ++ steps).reverse = some tree' ∧
      tree.HasWay place steps tree' := by
  induction steps using List.reverseRecOn with
  | nil =>
    refine ⟨tree, makeDirectories_of_exists (by simpa using hlead), hasWay_self ?_⟩
    intro way hne hway
    exact absurd (List.prefix_nil.1 hway) hne
  | append_singleton steps last ih =>
    obtain ⟨hsteps, hlast⟩ := List.forall_mem_append.1 hsteps
    have hlast := hlast last (.head _)
    have hfile := h (steps ++ [last]) (by simp) List.prefix_rfl
    have hfiles : ∀ way, way ≠ [] → way <+: steps →
        ∀ content, tree.node? (place ++ way) ≠ some (.file content) :=
      fun way hne hway => h way hne (hway.trans (List.prefix_append _ _))
    rw [← List.append_assoc] at hfile
    rw [← List.append_assoc, List.reverse_append, List.reverse_singleton, List.singleton_append]
    -- The directories before the last one are there, or one of them is missing.
    obtain hways | hmissing := follow_cases hsteps hfiles
    · have hbefore : tree.follow start (components ++ steps).reverse.reverse =
          .ok (place ++ steps) := by
        rw [List.reverse_reverse, follow_append, hlead]
        exact follow_steps hsteps hways
      obtain ⟨tree', hway, hmade⟩ := exists_makeDirectory hbefore hlast hfile
      refine ⟨tree', ?_, (hasWay_self hways).concat hway⟩
      obtain hok | ⟨rfl, hrefused, hleads⟩ := hmade
      · rw [makeDirectories, hok]
      · rw [makeDirectories, hrefused]
        exact if_pos hleads
    · obtain ⟨tree₁, hmade₁, hway₁⟩ := ih hsteps hfiles
      have hbefore : tree.follow start (components ++ steps).reverse.reverse =
          .error .missing := by
        rw [List.reverse_reverse, follow_append, hlead]
        exact hmissing
      have hbefore₁ : tree₁.follow start (components ++ steps).reverse.reverse =
          .ok (place ++ steps) := by
        rw [List.reverse_reverse, follow_append, follow_mono hway₁.keeps hlead]
        exact follow_steps hsteps hway₁.way
      have hfile₁ : ∀ content, tree₁.node? (place ++ steps ++ [last]) ≠ some (.file content) := by
        rw [hway₁.rest]
        · exact hfile
        · exact fun way _ hway => append_concat_ne hway
      obtain ⟨tree', hway, hmade⟩ := exists_makeDirectory hbefore₁ hlast hfile₁
      refine ⟨tree', ?_, hway₁.concat hway⟩
      rw [makeDirectories, makeDirectory_cons, hbefore]
      simp only [Except.bind, hmade₁, Option.bind_eq_bind, Option.bind_some]
      obtain hok | ⟨rfl, hrefused, hleads⟩ := hmade
      · rw [hok]
        rfl
      · rw [hrefused]
        exact if_pos hleads

end ValueShadow.FileTree
