import ValueShadow.Command.Generate
import ValueShadow.Proofs.Files.FileTree

/-!
# Writing files into a directory

A file of plain steps below a directory is written, with the directories on the way to it, if no
file stands in the way and no directory in its place (`exists_write`). A tree that holds some files
below a place (`HoldsBelow`) holds one more after that, and grows only below the place
(`HoldsBelow.concat`, `HoldsBelow.grows`), if the new file is apart from the others (`Apart`). So
files that are all apart from each other are all written (`exists_writeAll`). What is written of any
files is a first part of them (`written_cases`), all with paths that the file system allows
(`isPath_of_writeAll`).
-/

namespace ValueShadow.FileTree

open ValueShadow.Path

variable {tree tree' : FileTree} {directory content : String} {place steps : Place}
  {files : List (Place × String)}

/-- The steps from a directory name a file that the file system allows. -/
structure NamesFile (directory : String) (steps : Place) : Prop where
  nonempty : steps ≠ []
  plain : ∀ step ∈ steps, IsPlain step
  names : ∀ step ∈ steps, isName step = true
  path : isPath (below directory steps) = true

/-- Neither of two places is on the way to the other. -/
def Apart (first second : Place) : Prop :=
  ¬ first <+: second ∧ ¬ second <+: first

/-! ## One file -/

/-- A name that is a plain step is a step of the tree. -/
theorem NamesFile.isStep (h : NamesFile directory steps) {step : String} (hstep : step ∈ steps) :
    IsStep step :=
  ⟨(h.plain step hstep).notUp, h.names step hstep⟩

section
variable {way : Place} {last : String}

/-- A file is one plain step from the directory that its other steps lead to. -/
theorem NamesFile.path_eq (h : NamesFile directory (way ++ [last])) :
    below directory (way ++ [last]) = push (way.foldl push directory) last := by
  rw [← foldl_push_eq_below h.nonempty h.plain, List.foldl_append, List.foldl_cons, List.foldl_nil]

/-- The steps before the last one are plain. -/
theorem NamesFile.plain_way (h : NamesFile directory (way ++ [last])) :
    ∀ step ∈ way, IsPlain step :=
  fun step hstep => h.plain step (List.mem_append_left _ hstep)

/-- The last step is plain. -/
theorem NamesFile.plain_last (h : NamesFile directory (way ++ [last])) : IsPlain last :=
  h.plain last (List.mem_append_right _ (.head _))

/-- A path that is short enough is allowed if no component holds the character zero. -/
theorem isPath_of_components {path : String} (hsize : path.utf8ByteSize < 4096)
    (h : ∀ component ∈ components path, '\x00' ∉ component.toList) : isPath path = true := by
  have hsegments : ∀ segment ∈ Text.segments '/' path, ∀ c ∈ segment.toList, c ≠ '\x00' := by
    rintro segment hsegment c hc rfl
    refine h segment (List.mem_filter.2 ⟨hsegment, ?_⟩) hc
    have hother : segment ≠ "" ∧ segment ≠ "." := by
      constructor <;> rintro rfl <;> simp at hc
    simpa using hother
  have hzero : '\x00' ∉ path.toList := by
    intro hmem
    exact Text.forall_mem_segments_iff.1 hsegments _ hmem (by decide) rfl
  simp [isPath, hsize, hzero]

/-- The directory of an allowed path is allowed. -/
theorem isPath_parent {path : String} (h : isPath path = true) : isPath (parent path) = true := by
  obtain hroot | ⟨rest, hrest⟩ := parent_cases path
  · rw [hroot]
    rfl
  · have hpath : parent path ++ String.ofList rest = path := by
      rw [← String.toList_inj, String.toList_append, String.toList_ofList, hrest]
    rw [← hpath] at h
    simp only [isPath, Bool.and_eq_true, decide_eq_true_eq, Bool.not_eq_true',
      String.utf8ByteSize_append, String.toList_append, List.contains_eq_mem, List.mem_append,
      decide_eq_false_iff_not, not_or] at h ⊢
    exact ⟨by omega, h.2.1⟩

/-- The components of the directory of a file are those of the directory that its steps start from
and the steps before the last. -/
theorem NamesFile.components_parent (h : NamesFile directory (way ++ [last])) :
    components (parent (below directory (way ++ [last]))) = components directory ++ way := by
  rw [h.path_eq, h.plain_last.components_parent, components_foldl_push h.plain_way]

/-- The directory of a file starts where the directory does that its steps start from. -/
theorem NamesFile.start_parent (h : NamesFile directory (way ++ [last])) :
    tree.start (parent (below directory (way ++ [last]))) = tree.start directory := by
  rw [start, start, h.path_eq, h.plain_last.isAbsolute_parent, isAbsolute_foldl_push h.plain_way]

/-- Where the steps before the last one lead on from a place, the path names the place behind
them. -/
theorem filePlace?_below (hfile : NamesFile directory (way ++ [last]))
    (hlead : tree.follow (tree.start directory) (components directory ++ way) =
      .ok (place ++ way)) :
    tree.filePlace? (below directory (way ++ [last])) = some (place ++ (way ++ [last])) := by
  have hstart : tree.start (below directory (way ++ [last])) = tree.start directory := by
    rw [start, start, hfile.path_eq, hfile.plain_last.isAbsolute_push,
      isAbsolute_foldl_push hfile.plain_way]
  have hname := hfile.names last (List.mem_append_right _ (.head _))
  have hfileLike : isDirectoryLike (below directory (way ++ [last])) = false := by
    rw [hfile.path_eq, hfile.plain_last.not_directoryLike]
  rw [filePlace?, components_below hfile.plain, ← List.append_assoc, List.reverse_append,
    List.reverse_singleton, List.singleton_append]
  dsimp only
  rw [List.reverse_reverse, hstart, hlead]
  dsimp only
  rw [if_neg (by simp [hfile.path, hname, hfileLike]), List.append_assoc]

/-- A file is written if no file stands in the way and no directory in its place. -/
theorem exists_write (hfile : NamesFile directory (way ++ [last]))
    (hlead : tree.follow (tree.start directory) (components directory) = .ok place)
    (hways : ∀ before, before ≠ [] → before <+: way →
      ∀ other, tree.node? (place ++ before) ≠ some (.file other))
    (hplace : tree.node? (place ++ (way ++ [last])) ≠ some .directory) (content : String) :
    ∃ tree₁, tree.HasWay place way tree₁ ∧
      ((OutputFile.mk (below directory (way ++ [last])) content).write store).run tree =
        (none, tree₁.put (place ++ (way ++ [last])) (.file content)) := by
  have hsteps : ∀ step ∈ way, IsStep step :=
    fun step hstep => hfile.isStep (List.mem_append_left _ hstep)
  obtain ⟨tree₁, hmade, hway⟩ := exists_makeDirectories hlead hsteps hways
  have hdirectories : tree.createDirectories (parent (below directory (way ++ [last]))) =
      some tree₁ := by
    rw [createDirectories, if_pos (isPath_parent hfile.path), hfile.start_parent,
      hfile.components_parent, hmade]
  have hreached : tree₁.follow (tree₁.start directory) (components directory ++ way) =
      .ok (place ++ way) := by
    have hstart : tree₁.start directory = tree.start directory := by
      rw [start, start, hway.working]
    rw [hstart, follow_append, follow_mono hway.keeps hlead]
    exact follow_steps hsteps hway.way
  have hempty : tree₁.isDirectory (place ++ (way ++ [last])) = false := by
    rw [isDirectory, ← List.append_assoc, hway.rest _ fun _ _ hbefore => append_concat_ne hbefore,
      List.append_assoc]
    simpa using hplace
  refine ⟨tree₁, hway, ?_⟩
  simp [OutputFile.write, store, hdirectories, writeText, filePlace?_below hfile hreached, hempty]
  rfl

/-- What is at a place, once a file was put behind a way: the file, the directories of the way, and
what was there before everywhere else. -/
theorem HasWay.node?_put (h : tree.HasWay place way tree') (last content : String) :
    (tree'.put (place ++ (way ++ [last])) (.file content)).node? (place ++ (way ++ [last])) =
        some (.file content) ∧
      (∀ before, before ≠ [] → before <+: way →
        (tree'.put (place ++ (way ++ [last])) (.file content)).node? (place ++ before) =
          some .directory) ∧
      ∀ other, (∀ before, before ≠ [] → before <+: way ++ [last] → other ≠ place ++ before) →
        (tree'.put (place ++ (way ++ [last])) (.file content)).node? other = tree.node? other := by
  refine ⟨node?_put_self (by simp), fun before hne hbefore => ?_, fun other hother => ?_⟩
  · rw [node?_put_of_ne, h.way before hne hbefore]
    rw [← List.append_assoc]
    exact (append_concat_ne hbefore).symm
  · rw [node?_put_of_ne (hother _ (by simp) List.prefix_rfl), h.rest]
    exact fun before hne hbefore => hother before hne (hbefore.trans (List.prefix_append _ _))

end

/-! ## Several files -/

/-- Below the place stand exactly these files, by their steps from there, and the directories on the
way to them. -/
structure HoldsBelow (tree : FileTree) (place : Place) (files : List (Place × String)) :
    Prop where
  file : ∀ steps, steps ≠ [] → ∀ content,
    tree.node? (place ++ steps) = some (.file content) ↔ (steps, content) ∈ files
  directory : ∀ steps, steps ≠ [] → (tree.node? (place ++ steps) = some .directory ↔
    ∃ entry ∈ files, steps <+: entry.1 ∧ steps ≠ entry.1)

/-- The second tree has all that the first has, and more only below the place. -/
structure Grows (tree : FileTree) (place : Place) (tree' : FileTree) : Prop where
  working : tree'.working = tree.working
  keeps : ∀ other node, tree.node? other = some node → tree'.node? other = some node
  elsewhere : ∀ other, (∀ steps, steps ≠ [] → other ≠ place ++ steps) →
    tree'.node? other = tree.node? other

/-- A tree grows further. -/
theorem Grows.trans {tree'' : FileTree} (h : tree.Grows place tree')
    (h' : tree'.Grows place tree'') : tree.Grows place tree'' where
  working := h'.working.trans h.working
  keeps other node hnode := h'.keeps other node (h.keeps other node hnode)
  elsewhere other hother := (h'.elsewhere other hother).trans (h.elsewhere other hother)

/-- In a tree that grows, directories still lead to the same place. -/
theorem Grows.follow {components : List String} {reached : Place} (h : tree.Grows place tree')
    (hlead : tree.follow (tree.start directory) components = .ok reached) :
    tree'.follow (tree'.start directory) components = .ok reached := by
  have hstart : tree'.start directory = tree.start directory := by
    rw [start, start, h.working]
  rw [hstart]
  exact follow_mono (fun other => h.keeps other .directory) hlead

section
variable {way : Place} {last : String}

/-- Nothing but directories on the way to other files stands along a way to a new file. -/
theorem HoldsBelow.ways_free (h : tree.HoldsBelow place files)
    (hapart : ∀ entry ∈ files, Apart entry.1 (way ++ [last])) (before : Place)
    (hne : before ≠ []) (hbefore : before <+: way ++ [last]) (other : String) :
    tree.node? (place ++ before) ≠ some (.file other) := by
  intro hfile
  have hmem := (h.file before hne other).1 hfile
  exact (hapart _ hmem).1 hbefore

/-- Nothing stands in the place of a new file. -/
theorem HoldsBelow.place_free (h : tree.HoldsBelow place files)
    (hapart : ∀ entry ∈ files, Apart entry.1 (way ++ [last])) :
    tree.node? (place ++ (way ++ [last])) = none := by
  have hne : way ++ [last] ≠ [] := by simp
  cases hnode : tree.node? (place ++ (way ++ [last])) with
  | none => rfl
  | some node =>
    cases node with
    | file other => exact absurd hnode (h.ways_free hapart _ hne List.prefix_rfl other)
    | directory =>
      obtain ⟨entry, hentry, hbefore, -⟩ := (h.directory _ hne).1 hnode
      exact absurd hbefore (hapart entry hentry).2

/-- A file that is written apart from the others stands beside them. -/
theorem HoldsBelow.concat (h : tree.HoldsBelow place files)
    (hapart : ∀ entry ∈ files, Apart entry.1 (way ++ [last])) (hway : tree.HasWay place way tree')
    (content : String) :
    (tree'.put (place ++ (way ++ [last])) (.file content)).HoldsBelow place
      (files ++ [(way ++ [last], content)]) := by
  obtain ⟨hfile, hdirectories, hrest⟩ := hway.node?_put last content
  have hshorter : ∀ {steps : Place}, steps <+: way → steps ≠ way ++ [last] := by
    exact fun hsteps => (concat_ne_of_onWay hsteps).symm
  have hother : ∀ {steps : Place}, ¬ steps <+: way ++ [last] →
      (tree'.put (place ++ (way ++ [last])) (.file content)).node? (place ++ steps) =
        tree.node? (place ++ steps) := by
    refine fun hsteps => hrest _ fun before _ hbefore heq => hsteps ?_
    rwa [List.append_cancel_left heq]
  constructor
  · intro steps hne content'
    rw [List.mem_append, List.mem_singleton]
    by_cases hsteps : steps <+: way ++ [last]
    · have hnew : (steps, content') ∉ files := fun hmem => (hapart _ hmem).1 hsteps
      rw [or_iff_right hnew]
      obtain rfl | hbefore := List.prefix_concat_iff.1 hsteps
      · rw [hfile]
        simp [eq_comm]
      · rw [hdirectories steps hne hbefore]
        simp [hshorter hbefore]
    · have hdifferent : steps ≠ way ++ [last] := fun heq => hsteps (heq ▸ List.prefix_rfl)
      rw [hother hsteps, h.file steps hne]
      simp [hdifferent]
  · intro steps hne
    simp only [List.mem_append, List.mem_singleton, or_and_right, exists_or, exists_eq_left]
    by_cases hsteps : steps <+: way ++ [last]
    · obtain rfl | hbefore := List.prefix_concat_iff.1 hsteps
      · have hold : ¬ ∃ entry ∈ files, way ++ [last] <+: entry.1 ∧ way ++ [last] ≠ entry.1 :=
          fun ⟨entry, hentry, hway, _⟩ => (hapart entry hentry).2 hway
        rw [hfile, or_iff_right hold]
        simp
      · rw [hdirectories steps hne hbefore]
        simp [hsteps, hshorter hbefore]
    · rw [hother hsteps, h.directory steps hne]
      simp [hsteps]

/-- A tree grows by a file that is written apart from the others. -/
theorem HoldsBelow.grows (h : tree.HoldsBelow place files)
    (hapart : ∀ entry ∈ files, Apart entry.1 (way ++ [last])) (hway : tree.HasWay place way tree')
    (content : String) :
    tree.Grows place (tree'.put (place ++ (way ++ [last])) (.file content)) := by
  obtain ⟨hfile, hdirectories, hrest⟩ := hway.node?_put last content
  refine ⟨(working_put _ _ _).trans hway.working, fun other node hnode => ?_,
    fun other hother => ?_⟩
  · by_cases hway' : ∃ before, before ≠ [] ∧ before <+: way ++ [last] ∧ other = place ++ before
    · obtain ⟨before, hne, hbefore, rfl⟩ := hway'
      cases node with
      | file other => exact absurd hnode (h.ways_free hapart before hne hbefore other)
      | directory =>
        obtain rfl | hbefore := List.prefix_concat_iff.1 hbefore
        · cases (h.place_free hapart).symm.trans hnode
        · exact hdirectories before hne hbefore
    · rw [hrest other fun before hne hbefore heq => hway' ⟨before, hne, hbefore, heq⟩, hnode]
  · exact hrest other fun before hne _ => hother before hne

/-- The path of a file names its place in a tree that holds the file. -/
theorem HoldsBelow.filePlace? (h : tree.HoldsBelow place files) (hfile : NamesFile directory steps)
    (hlead : tree.follow (tree.start directory) (components directory) = .ok place)
    (hmem : (steps, content) ∈ files) :
    tree.filePlace? (below directory steps) = some (place ++ steps) := by
  obtain hnil | ⟨way, last, rfl⟩ := List.eq_nil_or_concat' steps
  · exact absurd hnil hfile.nonempty
  · refine filePlace?_below hfile ?_
    rw [follow_append, hlead]
    refine follow_steps (fun step hstep => hfile.isStep (List.mem_append_left _ hstep)) ?_
    intro before hne hbefore
    refine (h.directory before hne).2 ⟨_, hmem, hbefore.trans (List.prefix_append _ _), ?_⟩
    exact (concat_ne_of_onWay hbefore).symm

end

/-- The paths of written files are those of the first files, of all unless a write failed. -/
theorem written_cases {σ : Type} (files : FileStore (StateM σ)) (todo : List OutputFile)
    (state : σ) :
    ((writeAll files todo).run state).1.1 <+: todo.map (·.path) ∧
      (((writeAll files todo).run state).1.2 = none →
        ((writeAll files todo).run state).1.1 = todo.map (·.path)) := by
  induction todo generalizing state with
  | nil => exact ⟨List.prefix_rfl, fun _ => rfl⟩
  | cons file todo ih =>
    rw [writeAll, StateT.run_bind, List.map_cons]
    obtain ⟨error, state'⟩ := (file.write files).run state
    cases error with
    | some error => exact ⟨List.nil_prefix, fun h => by cases h⟩
    | none =>
      obtain ⟨hfirst, hall⟩ := ih state'
      constructor
      · exact List.cons_prefix_cons.2 ⟨rfl, hfirst⟩
      · intro h
        exact congrArg (file.path :: ·) (hall h)

/-- Only an allowed path names the place of a file. -/
theorem isPath_of_filePlace? {path : String} (h : tree.filePlace? path = some place) :
    isPath path = true := by
  rw [filePlace?] at h
  split at h
  · cases h
  · split at h
    · cases h
    · split at h
      · cases h
      · next hallowed => simpa using (not_or.1 hallowed).1

/-- A file that is written has an allowed path. -/
theorem isPath_of_write {file : OutputFile} (h : ((file.write store).run tree).1 = none) :
    isPath file.path = true := by
  cases hdirectories : tree.createDirectories (parent file.path) with
  | none => simp [OutputFile.write, store, hdirectories] at h
  | some tree₁ =>
    cases hplace : tree₁.filePlace? file.path with
    | none => simp [OutputFile.write, store, hdirectories, writeText, hplace] at h
    | some reached => exact isPath_of_filePlace? hplace

/-- If all files are written, they have allowed paths. -/
theorem isPath_of_writeAll {todo : List OutputFile}
    (h : ((writeAll store todo).run tree).1.2 = none) {file : OutputFile} (hfile : file ∈ todo) :
    isPath file.path = true := by
  induction todo generalizing tree with
  | nil => cases hfile
  | cons first todo ih =>
    rw [writeAll, StateT.run_bind] at h
    cases hwrite : (first.write store).run tree with
    | mk error tree₁ =>
    rw [hwrite] at h
    cases error with
    | some error => cases h
    | none =>
      rcases List.mem_cons.1 hfile with rfl | hfile
      · exact isPath_of_write (congrArg Prod.fst hwrite)
      · exact ih h hfile

/-- After a file that is written come the others. -/
theorem run_writeAll_cons {tree₁ : FileTree} {file : OutputFile} {others : List OutputFile}
    {written : List String} (hwrite : (file.write store).run tree = (none, tree₁))
    (hrun : (writeAll store others).run tree₁ = ((written, none), tree')) :
    (writeAll store (file :: others)).run tree = ((file.path :: written, none), tree') := by
  rw [writeAll, StateT.run_bind, hwrite]
  change (writeAll store others >>= fun result =>
    pure (file.path :: result.1, result.2)).run tree₁ = ((file.path :: written, none), tree')
  rw [StateT.run_bind, hrun]
  rfl

/-- Files that are apart from each other are all written. -/
theorem exists_writeAll {done todo : List (Place × String)}
    (hlead : tree.follow (tree.start directory) (components directory) = .ok place)
    (hholds : tree.HoldsBelow place done) (htodo : ∀ entry ∈ todo, NamesFile directory entry.1)
    (hapart : (done ++ todo).Pairwise fun a b => Apart a.1 b.1) :
    ∃ tree', (writeAll store (todo.map fun entry => ⟨below directory entry.1, entry.2⟩)).run tree =
        ((todo.map fun entry => below directory entry.1, none), tree') ∧
      tree.Grows place tree' ∧ tree'.HoldsBelow place (done ++ todo) := by
  induction todo generalizing tree done with
  | nil =>
    rw [List.append_nil]
    exact ⟨tree, rfl, ⟨rfl, fun _ _ => id, fun _ _ => rfl⟩, hholds⟩
  | cons entry todo ih =>
    obtain ⟨steps, content⟩ := entry
    obtain ⟨hfile, hfiles⟩ := List.forall_mem_cons.1 htodo
    obtain hnil | ⟨way, last, rfl⟩ := List.eq_nil_or_concat' steps
    · exact absurd hnil hfile.nonempty
    · have hnew : ∀ entry ∈ done, Apart entry.1 (way ++ [last]) :=
        fun entry hentry => (List.pairwise_append.1 hapart).2.2 entry hentry _ (.head _)
      obtain ⟨tree₁, hway, hwrite⟩ := exists_write hfile hlead
        (fun before hne hbefore =>
          hholds.ways_free hnew before hne (hbefore.trans (List.prefix_append _ _)))
        (by rw [hholds.place_free hnew]; exact Option.some_ne_none _ |>.symm) content
      have hgrows := hholds.grows hnew hway content
      rw [List.append_cons done] at hapart ⊢
      obtain ⟨tree', hrun, hgrows', hholds'⟩ := ih (hgrows.follow hlead)
        (hholds.concat hnew hway content) hfiles hapart
      exact ⟨tree', run_writeAll_cons hwrite hrun, hgrows.trans hgrows', hholds'⟩

end ValueShadow.FileTree
