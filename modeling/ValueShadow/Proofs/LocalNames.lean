import ValueShadow.LocalNames
import Mathlib.Data.Finset.Card
import Mathlib.Order.Bounds.Basic

/-!
# Free names for local variables

A stem is spelled like an identifier, whatever the base is, and so is the stem with underscores
behind it. With at least one of them it is no reserved word either, and each name in use blocks one
number of underscores, so one of the first numbers makes it free (`exists_isFree`): the search of
`LocalNames.underscores` finds the least number that does (`isLeast_underscores`). Names that are
handed out one after the other are distinct identifiers that were not in use
(`isFree_of_mem_allocateAll`, `nodup_allocateAll`).
-/

namespace ValueShadow.LocalNames

/-- The names that are free are the identifiers that are not in use. -/
theorem isFree_iff {names : LocalNames} {name : String} :
    names.isFree name = true ↔ name ∉ names.taken ∧ isIdentifier name = true := by
  simp [isFree]

/-! ## Stems -/

/-- An underscore may stand anywhere in an identifier. -/
theorem isIdentifierStart_underscore : isIdentifierStart '_' = true := by
  simp [isIdentifierStart]

/-- A text that may start and go on like an identifier is spelled like one. -/
theorem spellsIdentifier_cons_filter {first : Char} {rest : List Char}
    (h : isIdentifierStart first = true) :
    spellsIdentifier ((first :: rest).filter isIdentifierPart) = true := by
  rw [List.filter_cons_of_pos (isIdentifierPart_of_isIdentifierStart h), spellsIdentifier, h,
    Bool.true_and, List.all_filter]
  simp

/-- Every stem is spelled like an identifier. -/
theorem spellsIdentifier_stem (base : String) : spellsIdentifier (stem base).toList = true := by
  unfold stem
  split
  · decide +kernel
  · next first rest _ =>
    rw [String.toList_ofList]
    split
    · next hstart => exact spellsIdentifier_cons_filter hstart
    · exact spellsIdentifier_cons_filter isIdentifierStart_underscore

theorem toList_underscored (stem : String) (count : Nat) :
    (underscored stem count).toList = stem.toList ++ List.replicate count '_' := by
  simp [underscored]

/-- Different numbers of underscores make different names. -/
theorem underscored_injective (stem : String) : Function.Injective (underscored stem) := by
  intro count count' h
  have hlength := congrArg (·.toList.length) h
  simpa [toList_underscored] using hlength

/-- The lone underscore is the only reserved word that ends with one. -/
theorem eq_underscore_of_reserved :
    ∀ word ∈ reservedWords, word.toList.getLast? = some '_' → word = "_" := by
  decide

/-- A stem with underscores behind it is an identifier. -/
theorem isIdentifier_underscored {stem : String} (hstem : spellsIdentifier stem.toList = true)
    (count : Nat) : isIdentifier (underscored stem (count + 1)) = true := by
  obtain ⟨first, rest, hchars⟩ : ∃ first rest, stem.toList = first :: rest := by
    cases hchars : stem.toList with
    | nil =>
      rw [hchars] at hstem
      cases hstem
    | cons first rest => exact ⟨first, rest, rfl⟩
  rw [hchars, spellsIdentifier, Bool.and_eq_true] at hstem
  obtain ⟨hfirst, hrest⟩ := hstem
  have htext := toList_underscored stem (count + 1)
  rw [hchars, List.cons_append] at htext
  have hspells : spellsIdentifier (underscored stem (count + 1)).toList = true := by
    have hpart := isIdentifierPart_of_isIdentifierStart isIdentifierStart_underscore
    rw [htext, spellsIdentifier, hfirst, Bool.true_and, List.all_append, hrest, Bool.true_and]
    simp [hpart]
  -- A reserved word in this place would be the lone underscore, which has no stem in front of it.
  have hreserved : underscored stem (count + 1) ∉ reservedWords := by
    intro hmem
    have hword := eq_underscore_of_reserved _ hmem
      (by rw [toList_underscored, List.replicate_succ', ← List.append_assoc]; simp)
    rw [hword] at htext
    simp [List.replicate_succ'] at htext
  simp [isIdentifier, hspells, hreserved]

/-! ## The search -/

/-- One of the numbers of underscores that are tried makes the stem free. -/
theorem exists_isFree (names : LocalNames) {stem : String}
    (hstem : spellsIdentifier stem.toList = true) :
    ∃ count < names.taken.length + 2, names.isFree (underscored stem count) = true := by
  -- The names with 1, ..., `taken.length + 1` underscores are more than the names in use.
  have hcard : names.taken.toFinset.card <
      ((Finset.range (names.taken.length + 1)).image (underscored stem ∘ Nat.succ)).card := by
    rw [Finset.card_image_of_injective _ ((underscored_injective stem).comp Nat.succ_injective),
      Finset.card_range]
    exact Nat.lt_succ_of_le (List.toFinset_card_le _)
  obtain ⟨name, hcandidate, hfree⟩ := Finset.exists_mem_notMem_of_card_lt_card hcard
  obtain ⟨count, hcount, rfl⟩ := Finset.mem_image.1 hcandidate
  rw [Finset.mem_range] at hcount
  rw [List.mem_toFinset] at hfree
  exact ⟨count + 1, by omega, isFree_iff.2 ⟨hfree, isIdentifier_underscored hstem count⟩⟩

/-- The number of underscores is the least that makes the stem free. -/
theorem isLeast_underscores (names : LocalNames) {stem : String}
    (hstem : spellsIdentifier stem.toList = true) :
    IsLeast {count | names.isFree (underscored stem count) = true} (names.underscores stem) := by
  obtain ⟨count, hcount, hfree⟩ := names.exists_isFree hstem
  obtain ⟨least, hleast⟩ : ∃ least, (List.range (names.taken.length + 2)).find?
      (fun count => names.isFree (underscored stem count)) = some least := by
    rw [← Option.isSome_iff_exists, List.find?_isSome]
    exact ⟨count, List.mem_range.2 hcount, hfree⟩
  have hfound : names.underscores stem = least := by rw [underscores, hleast, Option.getD_some]
  obtain ⟨hleastFree, -, hless⟩ := List.find?_range_eq_some.1 hleast
  rw [hfound]
  refine ⟨hleastFree, fun other (hother : names.isFree (underscored stem other) = true) => ?_⟩
  by_contra hlt
  have hnot := hless other (Nat.lt_of_not_le hlt)
  rw [hother] at hnot
  cases hnot

/-! ## Handing out names -/

/-- The name handed out is free. -/
theorem isFree_allocate (names : LocalNames) (base : String) :
    names.isFree (names.allocate base).1 = true :=
  (names.isLeast_underscores (spellsIdentifier_stem base)).1

/-- The name handed out is in use from then on, and nothing else changes. -/
theorem isFree_snd_allocate {names : LocalNames} {base name : String} :
    (names.allocate base).2.isFree name = true ↔
      name ≠ (names.allocate base).1 ∧ names.isFree name = true := by
  simp [isFree_iff, allocate, and_assoc]

/-- Names handed out one after the other were not in use before. -/
theorem isFree_of_mem_allocateAll {names : LocalNames} {bases : List String} {name : String}
    (h : name ∈ names.allocateAll bases) : names.isFree name = true := by
  induction bases generalizing names with
  | nil => cases h
  | cons base bases ih =>
    rcases List.mem_cons.1 h with rfl | h
    · exact names.isFree_allocate base
    · exact (isFree_snd_allocate.1 (ih h)).2

/-- Names handed out one after the other are distinct. -/
theorem nodup_allocateAll (names : LocalNames) (bases : List String) :
    (names.allocateAll bases).Nodup := by
  induction bases generalizing names with
  | nil => exact List.nodup_nil
  | cons base bases ih =>
    refine List.nodup_cons.2 ⟨fun hmem => ?_, ih _⟩
    exact (isFree_snd_allocate.1 (isFree_of_mem_allocateAll hmem)).1 rfl

/-- They differ from the names in use as well. -/
theorem nodup_allocateAll_append (names : LocalNames) (bases : List String)
    (hdistinct : names.taken.Nodup) : (names.allocateAll bases ++ names.taken).Nodup := by
  refine List.nodup_append.2 ⟨names.nodup_allocateAll bases, hdistinct, ?_⟩
  rintro name hname _ htaken rfl
  exact (isFree_iff.1 (isFree_of_mem_allocateAll hname)).1 htaken

end ValueShadow.LocalNames
