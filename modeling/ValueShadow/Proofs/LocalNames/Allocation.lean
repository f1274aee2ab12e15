import ValueShadow.Proofs.LocalNames

/-!
# Allocation as a search

A free name can be found by appending underscores to the stem, one after the other, until the name
is free (`Lengthens`). The search ends for every base, after the number of steps that
`LocalNames.underscores` says (`lengthens_stem_iff`), which is at most one more than there are names
in use (`underscores_le`). The names in use grow with every allocation by the name handed out
(`taken_afterAll`), so each result differs from all earlier ones.
-/

namespace ValueShadow.LocalNames

variable {names : LocalNames}

/-! ## The search step by step -/

/-- The search ends in so many steps, each of which appends an underscore to a name that is not
free, with a name that is. -/
inductive Lengthens (names : LocalNames) : String → Nat → String → Prop where
  | free {name : String} : names.isFree name = true → Lengthens names name 0 name
  | again {name result : String} {steps : Nat} :
      names.isFree name = false → Lengthens names (name ++ "_") steps result →
      Lengthens names name (steps + 1) result

/-- The search has one end. -/
theorem Lengthens.unique {name result result' : String} {steps steps' : Nat}
    (h : Lengthens names name steps result) (h' : Lengthens names name steps' result') :
    steps = steps' ∧ result = result' := by
  induction h generalizing steps' with
  | free hfree =>
    cases h' with
    | free => exact ⟨rfl, rfl⟩
    | again hnot => cases hnot.symm.trans hfree
  | again hnot _ ih =>
    cases h' with
    | free hfree => cases hnot.symm.trans hfree
    | again _ hrest =>
      obtain ⟨rfl, rfl⟩ := ih hrest
      exact ⟨rfl, rfl⟩

theorem underscored_zero (stem : String) : underscored stem 0 = stem := by
  simp [underscored]

/-- One more underscore. -/
theorem underscored_append (stem : String) (count : Nat) :
    underscored stem count ++ "_" = underscored stem (count + 1) := by
  rw [← String.toList_inj, String.toList_append, toList_underscored, toList_underscored,
    List.replicate_succ', List.append_assoc]
  rfl

/-- The search goes on from any number of underscores to the least one that makes the name free. -/
theorem lengthens_of_isLeast {stem : String} {least count steps : Nat}
    (hleast : IsLeast {count | names.isFree (underscored stem count) = true} least)
    (hsteps : count + steps = least) :
    Lengthens names (underscored stem count) steps (underscored stem least) := by
  induction steps generalizing count with
  | zero =>
    subst hsteps
    exact .free hleast.1
  | succ steps ih =>
    -- There is a step left, so `count` is less than the least number and the name is not free yet.
    have hnot : names.isFree (underscored stem count) = false := by
      rw [← Bool.not_eq_true]
      intro hfree
      have hle : least ≤ count := hleast.2 hfree
      omega
    refine .again hnot ?_
    rw [underscored_append]
    exact ih (by omega)

/-- The search from the stem of a base ends after the number of underscores that is found, with the
name that is handed out. -/
theorem lengthens_stem_iff {base result : String} {steps : Nat} :
    Lengthens names (stem base) steps result ↔
      steps = names.underscores (stem base) ∧ result = (names.allocate base).1 := by
  have hfound : Lengthens names (stem base) (names.underscores (stem base))
      (names.allocate base).1 := by
    have hleast := names.isLeast_underscores (spellsIdentifier_stem base)
    have hsearch := lengthens_of_isLeast hleast (Nat.zero_add _)
    rwa [underscored_zero] at hsearch
  constructor
  · intro h
    exact h.unique hfound
  · rintro ⟨rfl, rfl⟩
    exact hfound

/-- Each name in use costs at most one underscore, and a reserved word one more. -/
theorem underscores_le (names : LocalNames) (base : String) :
    names.underscores (stem base) ≤ names.taken.length + 1 := by
  have hstem := spellsIdentifier_stem base
  obtain ⟨count, hcount, hfree⟩ := names.exists_isFree hstem
  have hle := (names.isLeast_underscores hstem).2 hfree
  omega

/-! ## One allocation after the other -/

/-- The names in use after several allocations. -/
def afterAll (names : LocalNames) (bases : List String) : LocalNames :=
  bases.foldl (fun names base => (names.allocate base).2) names

/-- The names handed out are in use. -/
theorem taken_afterAll (names : LocalNames) (bases : List String) :
    (names.afterAll bases).taken = (names.allocateAll bases).reverse ++ names.taken := by
  induction bases generalizing names with
  | nil => rfl
  | cons base bases ih =>
    have htail := ih (names.allocate base).2
    rw [allocateAll, List.reverse_cons, List.append_assoc]
    exact htail

/-- The last name is handed out with the names in use after the others. -/
theorem allocateAll_append_singleton (names : LocalNames) (before : List String) (base : String) :
    names.allocateAll (before ++ [base]) =
      names.allocateAll before ++ [((names.afterAll before).allocate base).1] := by
  induction before generalizing names with
  | nil => rfl
  | cons first before ih =>
    have htail := ih (names.allocate first).2
    rw [List.cons_append, allocateAll, allocateAll, List.cons_append]
    exact congrArg _ htail

theorem length_allocateAll (names : LocalNames) (bases : List String) :
    (names.allocateAll bases).length = bases.length := by
  induction bases generalizing names with
  | nil => rfl
  | cons base bases ih => exact congrArg (· + 1) (ih _)

/-- In use are the names that were in use at first and those that were handed out. -/
theorem mem_taken_afterAll {bases : List String} {name : String} :
    name ∈ (names.afterAll bases).taken ↔ name ∈ names.taken ∨ name ∈ names.allocateAll bases := by
  rw [taken_afterAll, List.mem_append, List.mem_reverse, or_comm]

/-- A name is free after several allocations if it is an identifier that was not in use and has not
been handed out. -/
theorem isFree_afterAll_iff {bases : List String} {name : String} :
    (names.afterAll bases).isFree name = true ↔
      isIdentifier name = true ∧ name ∉ names.taken ∧ name ∉ names.allocateAll bases := by
  rw [isFree_iff, mem_taken_afterAll, not_or, and_comm]

/-- A stem consists of the characters of the base that may stand in an identifier, behind an
underscore if the first of them all may not start one. -/
theorem stem_eq (base : String) :
    stem base =
      String.ofList
        ((if base.toList.head?.any isIdentifierStart then base.toList
          else '_' :: base.toList).filter isIdentifierPart) := by
  have hunderscore := isIdentifierPart_of_isIdentifierStart isIdentifierStart_underscore
  rw [stem]
  split
  · next hempty =>
    rw [hempty, List.head?_nil, Option.any_none, if_neg Bool.false_ne_true,
      List.filter_cons_of_pos hunderscore]
    rfl
  · next first rest hchars =>
    rw [hchars, List.head?_cons, Option.any_some]

/-- Whatever the names in use are and whatever has been handed out, the search for the name of the
next base ends, after at most one step more than there are names in use. Its result is an identifier
that was not in use at first and differs from all names handed out before: the base, behind an
underscore if its first character cannot start an identifier, without the characters that no
identifier holds, and with the least number of underscores behind it that makes such a name. -/
theorem allocates_fresh_identifiers (names : LocalNames) (before : List String) (base : String) :
    let allocator := names.afterAll before
    let result := (allocator.allocate base).1
    names.allocateAll (before ++ [base]) = names.allocateAll before ++ [result] ∧
    (∀ name, name ∈ allocator.taken ↔ name ∈ names.taken ∨ name ∈ names.allocateAll before) ∧
    isIdentifier result = true ∧ result ∉ names.taken ∧ result ∉ names.allocateAll before ∧
    stem base =
      String.ofList
        ((if base.toList.head?.any isIdentifierStart then base.toList
          else '_' :: base.toList).filter isIdentifierPart) ∧
    ∃ count ≤ names.taken.length + before.length + 1,
      result = stem base ++ String.ofList (List.replicate count '_') ∧
      IsLeast
        {count | isIdentifier (underscored (stem base) count) = true ∧
          underscored (stem base) count ∉ names.taken ∧
          underscored (stem base) count ∉ names.allocateAll before} count ∧
      ∀ steps name, Lengthens allocator (stem base) steps name ↔ steps = count ∧ name = result := by
  intro allocator result
  obtain ⟨hidentifier, hinitial, hearlier⟩ := isFree_afterAll_iff.1 (allocator.isFree_allocate base)
  refine ⟨names.allocateAll_append_singleton before base, fun _ => mem_taken_afterAll, hidentifier,
    hinitial, hearlier, stem_eq base, allocator.underscores (stem base), ?_, rfl, ?_,
    fun _ _ => lengthens_stem_iff⟩
  · have hbound := allocator.underscores_le base
    rw [names.taken_afterAll before, List.length_append, List.length_reverse,
      length_allocateAll] at hbound
    omega
  · have hleast := allocator.isLeast_underscores (spellsIdentifier_stem base)
    simpa only [allocator, isFree_afterAll_iff] using hleast

/-- A digit goes behind an underscore, and a reserved word in front of one. Equal stems get one
underscore more each time. -/
example :
    allocateAll ⟨["item"]⟩ ["item", "1st", "class", "it em", "?"] =
      ["item_", "_1st", "class_", "item__", "__"] := by
  decide +kernel

end ValueShadow.LocalNames
