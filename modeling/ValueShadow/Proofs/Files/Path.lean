import ValueShadow.Files.Path
import ValueShadow.Proofs.Text.Segments

/-!
# Steps of a path

Plain steps below a directory (`Path.below`) are the components that the path has after those of the
directory (`Path.components_below`). The directory of such a path is the one before its last step
(`Path.IsPlain.components_parent`, `Path.IsPlain.isAbsolute_parent`), whatever slashes and staying
components stand between them.
-/

namespace ValueShadow.Path

open Text

/-- A step to something in the directory: it is not empty, has no slash, and neither stays nor leads
to the directory above. -/
structure IsPlain (step : String) : Prop where
  nonempty : step ≠ ""
  noSlash : '/' ∉ step.toList
  notStay : step ≠ "."
  notUp : step ≠ ".."

/-- What stands between a directory and a step from it. -/
def separator (directory : String) : String :=
  if directory.isEmpty ∨ directory.toList.getLast? = some '/' then "" else "/"

/-- The path of the steps below a directory: they follow its text with a slash between any two. -/
def below (directory : String) (steps : List String) : String :=
  directory ++ separator directory ++ joined '/' steps

section
variable {directory step : String} {steps : List String}

/-- A plain step does not start from the root. -/
theorem IsPlain.not_absolute (h : IsPlain step) : isAbsolute step = false := by
  rw [isAbsolute, beq_eq_false_iff_ne]
  intro hhead
  exact h.noSlash (List.mem_of_mem_head? hhead)

/-- A plain step goes behind the directory. -/
theorem IsPlain.push_eq (h : IsPlain step) :
    push directory step = directory ++ separator directory ++ step := by
  rw [push, if_neg (by simp [h.not_absolute]), separator]
  split <;> simp

/-- A slash follows a path that ends with a plain step. -/
theorem IsPlain.separator_append (h : IsPlain step) : separator (directory ++ step) = "/" := by
  have hne : step.toList ≠ [] := fun hnil => h.nonempty (String.toList_eq_nil_iff.1 hnil)
  refine if_neg (not_or.2 ⟨?_, ?_⟩)
  · rw [String.isEmpty_iff, String.append_eq_empty_iff]
    exact fun hempty => h.nonempty hempty.2
  · rw [String.toList_append, List.getLast?_append_of_ne_nil _ hne]
    exact fun hlast => h.noSlash (List.mem_of_mem_getLast? hlast)

/-- Plain steps from a directory lead to the path below it. -/
theorem foldl_push_eq_below (hne : steps ≠ []) (hplain : ∀ step ∈ steps, IsPlain step) :
    steps.foldl push directory = below directory steps := by
  induction steps generalizing directory with
  | nil => exact absurd rfl hne
  | cons step steps ih =>
    obtain ⟨hstep, hsteps⟩ := List.forall_mem_cons.1 hplain
    rw [List.foldl_cons]
    cases steps with
    | nil => simp [hstep.push_eq, below, joined]
    | cons next others =>
      rw [ih (List.cons_ne_nil _ _) hsteps, below, hstep.push_eq, hstep.separator_append]
      simp [below, joined, String.intercalate_cons_cons, String.append_assoc]

/-! ## Components -/

/-- A slash separates the components of two paths. -/
theorem components_append (first second : String) :
    components (first ++ "/" ++ second) = components first ++ components second := by
  have hcut : segments '/' (first ++ "/" ++ second) = segments '/' first ++ segments '/' second :=
    segments_append first second
  rw [components, components, components, ← List.filter_append, ← hcut]

/-- A slash at the end adds no component. -/
theorem components_append_slash (path : String) : components (path ++ "/") = components path := by
  have h := components_append path ""
  rwa [String.append_empty, show components "" = [] from rfl, List.append_nil] at h

/-- The components of plain steps are the steps. -/
theorem components_joined (hplain : ∀ step ∈ steps, IsPlain step) :
    components (joined '/' steps) = steps := by
  by_cases hne : steps = []
  · subst hne
    rfl
  · rw [components, segments_joined hne fun step hstep => (hplain step hstep).noSlash,
      List.filter_eq_self]
    intro step hstep
    simp [(hplain step hstep).nonempty, (hplain step hstep).notStay]

/-- What stands between a directory and a step adds no component. -/
theorem components_separator_append (directory rest : String) :
    components (directory ++ separator directory ++ rest) =
      components directory ++ components rest := by
  rw [separator]
  split
  · next h =>
    obtain hempty | hlast := h
    · rw [String.isEmpty_iff] at hempty
      subst hempty
      simp [components, segments, splitAt]
    · obtain ⟨front, hfront⟩ := List.getLast?_eq_some_iff.1 hlast
      obtain rfl : directory = String.ofList front ++ "/" := by
        rw [← String.toList_inj, hfront]
        simp
      rw [String.append_empty, components_append, components_append_slash]
  · exact components_append directory rest

/-- The components of a path below a directory are those of the directory and the steps. -/
theorem components_below (hplain : ∀ step ∈ steps, IsPlain step) :
    components (below directory steps) = components directory ++ steps := by
  rw [below, components_separator_append, components_joined hplain]

/-! ## The directory of a file -/

/-- Slashes and staying components are left out at the end of the path. -/
theorem trimEnd_suffix (reversed : List Char) : trimEnd reversed <:+ reversed := by
  fun_induction trimEnd reversed with
  | case1 rest ih => exact ih.trans (List.suffix_cons _ _)
  | case2 rest ih => exact ih.trans ((List.suffix_cons _ _).trans (List.suffix_cons _ _))
  | case3 => exact List.suffix_rfl

/-- What is left out at the end of the path has no components. -/
theorem components_trimEnd (reversed : List Char) :
    components (String.ofList (trimEnd reversed).reverse) =
      components (String.ofList reversed.reverse) := by
  fun_induction trimEnd reversed with
  | case1 rest ih =>
    have hslash : String.ofList ('/' :: rest).reverse = String.ofList rest.reverse ++ "/" := by
      simp
    rw [ih, hslash, components_append_slash]
  | case2 rest ih =>
    have hdot : String.ofList ('.' :: '/' :: rest).reverse =
        String.ofList rest.reverse ++ "/" ++ "." := by
      simp [← String.toList_inj]
    rw [ih, hdot, components_append]
    exact (List.append_nil _).symm
  | case3 => rfl

/-- Only a path from the root is left out altogether. -/
theorem getLast?_of_trimEnd_eq_nil {reversed : List Char} (h : trimEnd reversed = []) :
    reversed = [] ∨ reversed.getLast? = some '/' := by
  fun_induction trimEnd reversed with
  | case1 rest ih =>
    obtain rfl | hlast := ih h
    · exact .inr rfl
    · exact .inr (by rw [List.getLast?_cons, hlast]; rfl)
  | case2 rest ih =>
    obtain rfl | hlast := ih h
    · exact .inr rfl
    · exact .inr (by rw [List.getLast?_cons, List.getLast?_cons, hlast]; rfl)
  | case3 => exact .inl h

/-- The path of the directory is a beginning of the path, or it is the root. -/
theorem parent_cases (path : String) :
    parent path = "/" ∨ (parent path).toList <+: path.toList := by
  unfold parent
  split
  · exact .inr (by simp)
  · next reversed hreversed =>
    dsimp only
    split
    · exact .inl rfl
    · refine .inr ?_
      have hsuffix := trimEnd_suffix (path.toList.reverse.dropWhile (· != '/'))
      have hpath := hsuffix.trans (List.dropWhile_suffix _)
      rw [← List.reverse_prefix, List.reverse_reverse] at hpath
      rwa [String.toList_ofList]

/-- Before a step stands nothing or a slash. -/
theorem append_separator_cases (directory : String) :
    directory = "" ∧ directory ++ separator directory = "" ∨
      directory ≠ "" ∧ (directory ++ separator directory).toList.getLast? = some '/' := by
  by_cases hempty : directory = ""
  · subst hempty
    exact .inl ⟨rfl, rfl⟩
  · refine .inr ⟨hempty, ?_⟩
    rw [separator]
    split
    · next h =>
      rw [String.append_empty]
      exact h.resolve_left (mt String.isEmpty_iff.1 hempty)
    · simp

/-- What stands before a step starts as the directory does. -/
theorem head?_append_separator (hne : directory ≠ "") :
    (directory ++ separator directory).toList.head? = directory.toList.head? := by
  rw [String.toList_append, List.head?_append_of_ne_nil _ (mt String.toList_eq_nil_iff.1 hne)]

/-- A plain step is from the root exactly if the directory is. -/
theorem IsPlain.isAbsolute_push (h : IsPlain step) :
    isAbsolute (push directory step) = isAbsolute directory := by
  rw [h.push_eq]
  by_cases hempty : directory = ""
  · subst hempty
    exact h.not_absolute
  · have hne : (directory ++ separator directory).toList ≠ [] := by
      rw [ne_eq, String.toList_eq_nil_iff, String.append_eq_empty_iff]
      exact fun hnil => hempty hnil.1
    rw [isAbsolute, isAbsolute, String.toList_append, List.head?_append_of_ne_nil _ hne,
      head?_append_separator hempty]

/-- The directory of a plain step is the one that it was made from, without what adds no
component. -/
theorem IsPlain.parent_push (h : IsPlain step) :
    parent (push directory step) =
      if directory = "" then ""
      else if trimEnd (directory ++ separator directory).toList.reverse = [] then "/"
      else String.ofList (trimEnd (directory ++ separator directory).toList.reverse).reverse := by
  have hstep : ∀ c ∈ step.toList.reverse, (c != '/') = true := by
    intro c hc
    rw [List.mem_reverse] at hc
    rw [bne_iff_ne]
    rintro rfl
    exact h.noSlash hc
  rw [h.push_eq, parent, String.toList_append, List.reverse_append,
    List.dropWhile_append_of_pos hstep]
  obtain ⟨hdirectory, hnil⟩ | ⟨hdirectory, hlast⟩ := append_separator_cases directory
  · rw [hnil, if_pos hdirectory]
    rfl
  · obtain ⟨rest, hrest⟩ := List.head?_eq_some_iff.1 (List.head?_reverse.trans hlast)
    rw [hrest, if_neg hdirectory]
    simp

/-- The directory of a plain step has the components of the one that it was made from. -/
theorem IsPlain.components_parent (h : IsPlain step) :
    components (parent (push directory step)) = components directory := by
  have hdirectory : components (directory ++ separator directory) = components directory := by
    have happend := components_separator_append directory ""
    rwa [String.append_empty, show components "" = [] from rfl, List.append_nil] at happend
  have htrim := components_trimEnd (directory ++ separator directory).toList.reverse
  rw [List.reverse_reverse, String.ofList_toList, hdirectory] at htrim
  rw [h.parent_push]
  split
  · next hempty => rw [hempty]
  · split
    · next hnil =>
      rw [hnil] at htrim
      exact htrim
    · exact htrim

/-- The directory of a plain step starts where the one does that it was made from. -/
theorem IsPlain.isAbsolute_parent (h : IsPlain step) :
    isAbsolute (parent (push directory step)) = isAbsolute directory := by
  have hsuffix := trimEnd_suffix (directory ++ separator directory).toList.reverse
  rw [h.parent_push]
  split
  · next hempty => rw [hempty]
  · next hempty =>
    rw [isAbsolute, isAbsolute, ← head?_append_separator hempty]
    split
    · next hnil =>
      obtain hnil | hlast := getLast?_of_trimEnd_eq_nil hnil
      · have hdirectory := String.toList_eq_nil_iff.1 (List.reverse_eq_nil_iff.1 hnil)
        exact absurd (String.append_eq_empty_iff.1 hdirectory).1 hempty
      · rw [List.getLast?_reverse] at hlast
        rw [hlast]
        rfl
    · next htrim =>
      rw [← List.reverse_prefix, List.reverse_reverse] at hsuffix
      obtain ⟨rest, hrest⟩ := hsuffix
      have hhead := congrArg List.head? hrest
      rw [List.head?_append_of_ne_nil _ (mt List.reverse_eq_nil_iff.1 htrim)] at hhead
      rw [String.toList_ofList, hhead]

/-- A path that ends with a plain step can be that of a file. -/
theorem IsPlain.not_directoryLike (h : IsPlain step) :
    isDirectoryLike (push directory step) = false := by
  have hstep : segments '/' step = [step] :=
    (segments_joined (List.cons_ne_nil _ _) (by simpa using h.noSlash) :
      segments '/' (joined '/' [step]) = [step])
  have hlast : (segments '/' (push directory step)).getLast? = some step := by
    rw [h.push_eq]
    obtain ⟨-, hnil⟩ | ⟨-, hslash⟩ := append_separator_cases directory
    · rw [hnil, String.empty_append, hstep]
      rfl
    · obtain ⟨front, hfront⟩ := List.getLast?_eq_some_iff.1 hslash
      have hpath : directory ++ separator directory ++ step =
          String.ofList front ++ String.singleton '/' ++ step := by
        rw [← String.toList_inj, String.toList_append, hfront]
        simp
      rw [hpath, segments_append, hstep, List.getLast?_concat]
  simp [isDirectoryLike, hlast, h.nonempty, h.notStay, h.notUp]

/-! ## Several steps -/

/-- Plain steps lead from the root exactly if the directory does. -/
theorem isAbsolute_foldl_push (hplain : ∀ step ∈ steps, IsPlain step) :
    isAbsolute (steps.foldl push directory) = isAbsolute directory := by
  induction steps generalizing directory with
  | nil => rfl
  | cons step steps ih =>
    obtain ⟨hstep, hsteps⟩ := List.forall_mem_cons.1 hplain
    rw [List.foldl_cons, ih hsteps, hstep.isAbsolute_push]

/-- Plain steps are the components that follow those of the directory. -/
theorem components_foldl_push (hplain : ∀ step ∈ steps, IsPlain step) :
    components (steps.foldl push directory) = components directory ++ steps := by
  by_cases hne : steps = []
  · subst hne
    exact (List.append_nil _).symm
  · rw [foldl_push_eq_below hne hplain, components_below hplain]

end

end ValueShadow.Path
