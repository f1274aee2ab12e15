import ValueShadow.Java.Scope
import ValueShadow.Proofs.OrderedSet
import ValueShadow.Proofs.QualifiedName
import Mathlib.Order.Bounds.Defs

/-!
# Owners of simple names

Which class owns a simple name in a file is said by `Owns` without the steps that find it, and
`Scope.owner?_eq_some_iff` says that the scope of the file finds that class. A step takes no simple
name from its owner (`Scope.owner?_declare`, `Scope.owner?_addImport`), so a run of steps gives a
simple name to the first class of that name (`Scope.owner?_foldl`), and the classes stand in
ascending order. The imports are the owners that are not visible without one
(`Scope.mem_imports_iff`).
-/

namespace ValueShadow.Java

/-- The class is the outermost one around a class that the file refers to. -/
def IsReferenced (names : List QualifiedName) (top : QualifiedName) : Prop :=
  ∃ name ∈ names, name.topLevel = top

instance (names : List QualifiedName) (top : QualifiedName) : Decidable (IsReferenced names top) :=
  inferInstanceAs (Decidable (∃ name ∈ names, name.topLevel = top))

/-- The class owns its simple name in a file of `package` that declares a class and refers to
others: it is the declared class, or the least one of that simple name in the file's package or
`java.lang`, or the least one of that simple name in another package, the earlier in this list
first. -/
inductive Owns (package : String) (declared : QualifiedName) (names : List QualifiedName) :
    QualifiedName → Prop where
  | declared : Owns package declared names declared.topLevel
  | implicit {top : QualifiedName} : top.simpleName ≠ declared.topLevel.simpleName →
      IsLeast {other | IsReferenced names other ∧ Scope.isImplicit package other = true ∧
        other.simpleName = top.simpleName} top →
      Owns package declared names top
  | explicit {top : QualifiedName} : top.simpleName ≠ declared.topLevel.simpleName →
      (∀ other, IsReferenced names other → Scope.isImplicit package other = true →
        other.simpleName ≠ top.simpleName) →
      IsLeast {other | IsReferenced names other ∧ Scope.isImplicit package other = false ∧
        other.simpleName = top.simpleName} top →
      Owns package declared names top

namespace Scope

/-! ## Steps -/

section
variable {scope : Scope} {name owner : QualifiedName} {simpleName : String}

@[simp]
theorem imports_declare (scope : Scope) (name : QualifiedName) :
    (scope.declare name).imports = scope.imports := by
  unfold declare
  split <;> rfl

/-- A declared class owns its simple name, unless another class already does. -/
theorem owner?_declare (scope : Scope) (name : QualifiedName) (simpleName : String) :
    (scope.declare name).owner? simpleName =
      (scope.owner? simpleName).or (if name.simpleName = simpleName then some name else none) := by
  unfold declare
  split
  · next owner howner =>
    split
    · next hsame =>
      rw [← hsame, howner, Option.some_or]
    · rw [Option.or_none]
  · rw [owner?, List.find?_append, ← owner?]
    by_cases hsame : name.simpleName = simpleName
    · simp [hsame]
    · simp [hsame]

/-- An import changes the owners like a declaration. -/
theorem owner?_addImport (scope : Scope) (name : QualifiedName) (simpleName : String) :
    (scope.addImport name).owner? simpleName =
      (scope.owner? simpleName).or (if name.simpleName = simpleName then some name else none) := by
  rw [← owner?_declare, addImport]
  split <;> rfl

/-- The imports become those that there were, and the class if it owns its simple name then. -/
theorem mem_imports_addImport {text : String} :
    text ∈ (scope.addImport name).imports ↔
      text ∈ scope.imports ∨
        (scope.addImport name).owner? name.simpleName = some name ∧ text = name.display := by
  rw [owner?_addImport, ← owner?_declare, addImport]
  split
  · next howner => simp [howner, or_comm]
  · next howner => simp [howner]

end

/-! ## Runs -/

section
variable {step : Scope → QualifiedName → Scope}
  (hstep : ∀ scope name simpleName, (step scope name).owner? simpleName =
    (scope.owner? simpleName).or (if name.simpleName = simpleName then some name else none))

include hstep in
/-- Of several classes, the first of a simple name owns it afterwards, unless another class already
does. -/
theorem owner?_foldl (names : List QualifiedName) (scope : Scope) (simpleName : String) :
    (names.foldl step scope).owner? simpleName =
      (scope.owner? simpleName).or (names.find? (·.simpleName == simpleName)) := by
  induction names generalizing scope with
  | nil => simp
  | cons first rest ih =>
    rw [List.foldl_cons, ih, hstep, Option.or_assoc]
    by_cases hsame : first.simpleName = simpleName
    · simp [hsame]
    · simp [hsame]

end

@[simp]
theorem imports_foldl_declare (names : List QualifiedName) (scope : Scope) :
    (names.foldl declare scope).imports = scope.imports := by
  induction names generalizing scope with
  | nil => rfl
  | cons first rest ih => rw [List.foldl_cons, ih, imports_declare]

/-- The imports after several classes are those that there were, and the classes that own their
simple name at the end. -/
theorem mem_imports_foldl_addImport {names : List QualifiedName} {scope : Scope} {text : String} :
    text ∈ (names.foldl addImport scope).imports ↔
      text ∈ scope.imports ∨
        ∃ name ∈ names, (names.foldl addImport scope).owner? name.simpleName = some name ∧
          text = name.display := by
  induction names generalizing scope with
  | nil => simp
  | cons first rest ih =>
    -- The simple name of the first class has an owner after its step, who keeps it to the end.
    have hkeeps : (rest.foldl addImport (scope.addImport first)).owner? first.simpleName =
        (scope.addImport first).owner? first.simpleName := by
      rw [owner?_foldl owner?_addImport, owner?_addImport, if_pos rfl]
      cases scope.owner? first.simpleName <;> rfl
    rw [List.foldl_cons, ih, mem_imports_addImport, or_assoc, List.exists_mem_cons_iff, hkeeps]

theorem ascending_imports_foldl_addImport {names : List QualifiedName} {scope : Scope}
    (h : OrderedSet.Ascending scope.imports) :
    OrderedSet.Ascending (names.foldl addImport scope).imports := by
  induction names generalizing scope with
  | nil => exact h
  | cons first rest ih =>
    refine ih ?_
    rw [addImport]
    split
    · exact (imports_declare scope first ▸ h).insert _
    · exact imports_declare scope first ▸ h

/-! ## The scope of a file -/

section
variable {package : String} {declared : QualifiedName} {names : List QualifiedName}

/-- The outermost classes that a file refers to, in ascending order. -/
def referencedTops (names : List QualifiedName) : List QualifiedName :=
  OrderedSet.ofList (names.map QualifiedName.topLevel)

@[simp]
theorem mem_referencedTops {top : QualifiedName} :
    top ∈ referencedTops names ↔ IsReferenced names top := by
  rw [referencedTops, OrderedSet.mem_ofList, List.mem_map, IsReferenced]

/-- The first class of a kind and a simple name is the least one. -/
theorem find?_referencedTops_eq_some_iff {p : QualifiedName → Bool} {simpleName : String}
    {top : QualifiedName} :
    (referencedTops names).find? (fun other => p other && other.simpleName == simpleName) =
        some top ↔
      IsLeast {other | IsReferenced names other ∧ p other = true ∧
        other.simpleName = simpleName} top := by
  have hascending : OrderedSet.Ascending (referencedTops names) := OrderedSet.ascending_ofList _
  rw [hascending.find?_eq_some_iff]
  simp only [mem_referencedTops, Bool.and_eq_true, beq_iff_eq]
  rfl

/-- The declared class is asked for its simple name first, then the classes that are visible without
an import, then the others. -/
theorem owner?_ofNames (package : String) (declared : QualifiedName) (names : List QualifiedName)
    (simpleName : String) :
    (ofNames package declared names).owner? simpleName =
      ((if declared.topLevel.simpleName = simpleName then some declared.topLevel else none).or
        ((referencedTops names).find? fun other =>
          isImplicit package other && other.simpleName == simpleName)).or
        ((referencedTops names).find? fun other =>
          !isImplicit package other && other.simpleName == simpleName) := by
  rw [ofNames, List.partition_eq_filter_filter]
  dsimp only
  rw [owner?_foldl owner?_addImport, owner?_foldl owner?_declare, owner?_declare, List.find?_filter,
    List.find?_filter]
  simp only [Bool.decide_and, Bool.decide_eq_true, Function.comp_apply]
  rfl

/-- The scope of a file finds the class that owns a simple name. -/
theorem owner?_eq_some_iff {simpleName : String} {owner : QualifiedName} :
    (ofNames package declared names).owner? simpleName = some owner ↔
      Owns package declared names owner ∧ owner.simpleName = simpleName := by
  rw [owner?_ofNames]
  by_cases hdeclared : declared.topLevel.simpleName = simpleName
  · rw [if_pos hdeclared, Option.some_or, Option.some_or, Option.some_inj]
    constructor
    · rintro rfl
      exact ⟨.declared, hdeclared⟩
    · rintro ⟨howns, rfl⟩
      cases howns with
      | declared => rfl
      | implicit hne | explicit hne => exact absurd hdeclared.symm hne
  · rw [if_neg hdeclared, Option.none_or]
    cases himplicit : (referencedTops names).find? fun other =>
      isImplicit package other && other.simpleName == simpleName with
    | some top =>
      rw [Option.some_or, Option.some_inj]
      have hleast := find?_referencedTops_eq_some_iff.1 himplicit
      obtain ⟨htop, hvisible, rfl⟩ := hleast.1
      constructor
      · rintro rfl
        exact ⟨.implicit (Ne.symm hdeclared) hleast, rfl⟩
      · rintro ⟨howns, hsame⟩
        cases howns with
        | declared => exact absurd hsame hdeclared
        | implicit _ hother =>
          rw [hsame] at hother
          cases himplicit.symm.trans (find?_referencedTops_eq_some_iff.2 hother)
          rfl
        | explicit _ hnone => exact absurd hsame.symm (hnone top htop hvisible)
    | none =>
      rw [Option.none_or, find?_referencedTops_eq_some_iff]
      have hnone : ∀ other, IsReferenced names other → isImplicit package other = true →
          other.simpleName ≠ simpleName := by
        intro other hother hvisible hsame
        rw [List.find?_eq_none] at himplicit
        exact himplicit other (mem_referencedTops.2 hother) (by simp [hvisible, hsame])
      simp only [Bool.not_eq_true']
      constructor
      · intro hleast
        obtain ⟨-, -, rfl⟩ := hleast.1
        exact ⟨.explicit (Ne.symm hdeclared) hnone hleast, rfl⟩
      · rintro ⟨howns, rfl⟩
        cases howns with
        | declared => exact absurd rfl hdeclared
        | implicit _ hleast =>
          obtain ⟨⟨howner, hvisible, -⟩, -⟩ := hleast
          exact absurd rfl (hnone owner howner hvisible)
        | explicit _ _ hleast => exact hleast

/-- A simple name has an owner exactly if it is that of the declared class or of a referenced
one. -/
theorem owner?_isSome_iff {simpleName : String} :
    ((ofNames package declared names).owner? simpleName).isSome = true ↔
      declared.topLevel.simpleName = simpleName ∨
        ∃ top, IsReferenced names top ∧ top.simpleName = simpleName := by
  rw [owner?_ofNames, Option.isSome_or, Option.isSome_or, Bool.or_eq_true, Bool.or_eq_true,
    or_assoc]
  refine or_congr ?_ ?_
  · split <;> simp_all
  · simp only [List.find?_isSome, mem_referencedTops, Bool.and_eq_true, Bool.not_eq_true',
      beq_iff_eq]
    constructor
    · rintro (⟨top, htop, -, hsame⟩ | ⟨top, htop, -, hsame⟩) <;> exact ⟨top, htop, hsame⟩
    · rintro ⟨top, htop, hsame⟩
      cases hvisible : isImplicit package top with
      | true => exact .inl ⟨top, htop, hvisible, hsame⟩
      | false => exact .inr ⟨top, htop, hvisible, hsame⟩

/-- The scope of a file depends only on which classes the file refers to. -/
theorem ofNames_congr {others : List QualifiedName} (h : ∀ name, name ∈ names ↔ name ∈ others) :
    ofNames package declared others = ofNames package declared names := by
  have htops : OrderedSet.ofList (others.map QualifiedName.topLevel) =
      OrderedSet.ofList (names.map QualifiedName.topLevel) :=
    OrderedSet.ofList_congr fun top => by simp [h]
  rw [ofNames, htops, ofNames]

/-- If the declared class is in the file's package, the imports are the owners that are not visible
without an import. -/
theorem mem_imports_iff (hdeclared : declared.package = package) {text : String} :
    text ∈ (ofNames package declared names).imports ↔
      ∃ owner, Owns package declared names owner ∧ isImplicit package owner = false ∧
        text = owner.display := by
  have himports : text ∈ (ofNames package declared names).imports ↔
      ∃ name ∈ (referencedTops names).filter (!isImplicit package ·),
        (ofNames package declared names).owner? name.simpleName = some name ∧
          text = name.display := by
    rw [ofNames, List.partition_eq_filter_filter]
    dsimp only
    rw [mem_imports_foldl_addImport, imports_foldl_declare, imports_declare,
      or_iff_right List.not_mem_nil]
    rfl
  simp only [himports, List.mem_filter, mem_referencedTops, Bool.not_eq_true', owner?_eq_some_iff,
    and_true]
  constructor
  · rintro ⟨owner, ⟨-, hvisible⟩, howns, htext⟩
    exact ⟨owner, howns, hvisible, htext⟩
  · rintro ⟨owner, howns, hvisible, htext⟩
    refine ⟨owner, ⟨?_, hvisible⟩, howns, htext⟩
    cases howns with
    | declared => simp [isImplicit, hdeclared] at hvisible
    | implicit _ hleast | explicit _ _ hleast => exact hleast.1.1

theorem ascending_imports (package : String) (declared : QualifiedName)
    (names : List QualifiedName) :
    OrderedSet.Ascending (ofNames package declared names).imports := by
  refine ascending_imports_foldl_addImport ?_
  rw [imports_foldl_declare, imports_declare]
  exact .nil

/-! ## Spelling -/

theorem spell_of_owns {name : QualifiedName} (h : Owns package declared names name.topLevel) :
    (ofNames package declared names).spell name = name.relativeName := by
  rw [spell, if_pos (owner?_eq_some_iff.2 ⟨h, rfl⟩)]

theorem spell_of_not_owns {name : QualifiedName}
    (h : ¬ Owns package declared names name.topLevel) :
    (ofNames package declared names).spell name = name.display := by
  rw [spell, if_neg fun howner => h (owner?_eq_some_iff.1 howner).1]

end

/-- Two names that are read back are spelled alike only if they are equal, whatever the scope. -/
theorem spell_inj (scope : Scope) {name other : QualifiedName} (hname : name.ReadsBack)
    (hother : other.ReadsBack) (hpackage : name.package ≠ "") (hpackage' : other.package ≠ "") :
    scope.spell name = scope.spell other ↔ name = other := by
  refine ⟨fun hspell => ?_, fun h => h ▸ rfl⟩
  -- A relative name is read without a package, a name in full with the package it has.
  have hrelative := hname.ofDotted_relativeName hpackage
  have hrelative' := hother.ofDotted_relativeName hpackage'
  rw [spell, spell] at hspell
  split at hspell
  · next howner =>
    split at hspell
    · next howner' =>
      rw [hspell, hrelative'] at hrelative
      have hsimple : name.simpleNames = other.simpleNames :=
        (congrArg QualifiedName.simpleNames hrelative).symm
      have htop : name.topLevel.simpleName = other.topLevel.simpleName := by
        simp only [QualifiedName.simpleName_topLevel, hsimple]
      rw [htop, howner', Option.some_inj] at howner
      have hpackages := (QualifiedName.topLevel_inj.1 howner).1
      cases name
      cases other
      simp_all
    · rw [hspell, hother] at hrelative
      exact absurd (congrArg QualifiedName.package hrelative) hpackage'
  · split at hspell
    · rw [← hspell, hname] at hrelative'
      exact absurd (congrArg QualifiedName.package hrelative') hpackage
    · exact (hname.display_inj hother).1 hspell

end Scope

/-! ## One owner for each simple name -/

open Scope

section
variable {package : String} {declared : QualifiedName} {names : List QualifiedName}

/-- A simple name has one owner. -/
theorem Owns.unique {owner other : QualifiedName} (howner : Owns package declared names owner)
    (hother : Owns package declared names other) (hsame : owner.simpleName = other.simpleName) :
    owner = other := by
  have hfind := owner?_eq_some_iff.2 ⟨howner, hsame⟩
  exact Option.some_inj.1 (hfind.symm.trans (owner?_eq_some_iff.2 ⟨hother, rfl⟩))

/-- An imported class has no simple name of a class that is visible without an import. -/
theorem Owns.simpleName_ne {owner other : QualifiedName}
    (howner : Owns package declared names owner) (hdeclared : declared.package = package)
    (hvisible : isImplicit package owner = false)
    (hother : IsReferenced names other) (hvisible' : isImplicit package other = true) :
    other.simpleName ≠ owner.simpleName := by
  cases howner with
  | declared => simp [isImplicit, hdeclared] at hvisible
  | implicit _ hleast =>
    obtain ⟨⟨-, himplicit, -⟩, -⟩ := hleast
    cases hvisible.symm.trans himplicit
  | explicit _ hnone _ => exact hnone other hother hvisible'

/-- A file has at most one owner for each simple name, and one for each simple name of a class that
it declares or refers to. The owners depend only on which classes the file refers to. A class is
spelled by its relative name if its outermost class is an owner, and in full otherwise. The imports
are the owners of other packages in ascending order, and none of them has the simple name of another
imported class or of a class that is visible without an import. Different names in packages that are
read back are spelled differently. -/
theorem one_owner_per_name (package : String) (declared : QualifiedName)
    (names : List QualifiedName) :
    (∀ simpleName owner, (ofNames package declared names).owner? simpleName = some owner ↔
      Owns package declared names owner ∧ owner.simpleName = simpleName) ∧
    (∀ simpleName, ((ofNames package declared names).owner? simpleName).isSome = true ↔
      declared.topLevel.simpleName = simpleName ∨
        ∃ top, IsReferenced names top ∧ top.simpleName = simpleName) ∧
    (∀ others, (∀ name, name ∈ names ↔ name ∈ others) →
      ofNames package declared others = ofNames package declared names) ∧
    (∀ name,
      (Owns package declared names name.topLevel →
        (ofNames package declared names).spell name = name.relativeName) ∧
      (¬ Owns package declared names name.topLevel →
        (ofNames package declared names).spell name = name.display) ∧
      (name.package ≠ "" → ((ofNames package declared names).spell name = name.relativeName ↔
        Owns package declared names name.topLevel))) ∧
    (declared.package = package →
      (ofNames package declared names).imports.Pairwise (· < ·) ∧
      (∀ text, text ∈ (ofNames package declared names).imports ↔
        ∃ owner, Owns package declared names owner ∧ isImplicit package owner = false ∧
          text = owner.display) ∧
      ∀ owner, Owns package declared names owner → isImplicit package owner = false →
        (∀ other, Owns package declared names other → other ≠ owner →
          other.simpleName ≠ owner.simpleName) ∧
        ∀ other, IsReferenced names other → isImplicit package other = true →
          other.simpleName ≠ owner.simpleName) ∧
    ∀ name other, name.ReadsBack → other.ReadsBack → name.package ≠ "" → other.package ≠ "" →
      name ≠ other →
      (ofNames package declared names).spell name ≠
        (ofNames package declared names).spell other := by
  refine ⟨fun _ _ => owner?_eq_some_iff, fun _ => owner?_isSome_iff, fun _ => ofNames_congr,
    fun name => ⟨spell_of_owns, spell_of_not_owns,
      fun hpackage => ⟨fun hspell => ?_, spell_of_owns⟩⟩,
    fun hdeclared => ⟨?_, fun _ => mem_imports_iff hdeclared,
      fun owner howner hvisible => ⟨?_, ?_⟩⟩,
    fun name other hname hother hpackage hpackage' => ?_⟩
  · by_contra hnot
    exact QualifiedName.display_ne_relativeName hpackage
      ((spell_of_not_owns hnot).symm.trans hspell)
  · exact (ascending_imports package declared names).imp compareOfLessAndEq_eq_lt.1
  · exact fun other hother hne hsame => hne (hother.unique howner hsame)
  · exact fun other => howner.simpleName_ne hdeclared hvisible
  · exact mt (spell_inj _ hname hother hpackage hpackage').1

end

/-- The class generated for an order. -/
def orderClass : QualifiedName :=
  .ofClass "com.example" "AutoValue_Order"

/-- Classes that a file of an order refers to: two of one simple name, one inside another, one of
`java.lang`, and one that is named like the generated class. -/
def orderNames : List QualifiedName :=
  [.ofClass "com.other" "Tag", (QualifiedName.ofClass "java.util" "Map").nested "Entry",
    .ofClass "com.example" "Tag", .ofClass "java.lang" "String",
    .ofClass "com.other" "AutoValue_Order"]

/-- In the file of an order the tag of its own package owns the simple name, the other one is
written in full, and only the map is imported. The scope stays as it is when the names come in
another order and more than once. -/
theorem one_owner_per_name_order :
    Owns "com.example" orderClass orderNames (.ofClass "com.example" "Tag") ∧
      ofNames "com.example" orderClass (orderNames.reverse ++ orderNames) =
        ofNames "com.example" orderClass orderNames ∧
      (ofNames "com.example" orderClass orderNames).spell (.ofClass "com.other" "Tag") =
        "com.other.Tag" ∧
      (ofNames "com.example" orderClass orderNames).imports = ["java.util.Map"] ∧
      (∀ other, Owns "com.example" orderClass orderNames other →
        other ≠ .ofClass "java.util" "Map" → other.simpleName ≠ "Map") ∧
      (ofNames "com.example" orderClass orderNames).spell (.ofClass "com.other" "Tag") ≠
        (ofNames "com.example" orderClass orderNames).spell (.ofClass "com.example" "Tag") := by
  obtain ⟨howner, -, hcongr, hspell, himports, hapart⟩ :=
    one_owner_per_name "com.example" orderClass orderNames
  have htag := ((howner "Tag" (.ofClass "com.example" "Tag")).1 (by decide)).1
  have hmap := ((howner "Map" (.ofClass "java.util" "Map")).1 (by decide)).1
  have hother : ¬ Owns "com.example" orderClass orderNames (.ofClass "com.other" "Tag") := by
    intro hother
    have hfind := (howner "Tag" _).2 ⟨hother, rfl⟩
    exact absurd hfind (by decide)
  obtain ⟨-, -, hunique⟩ := himports rfl
  refine ⟨htag, ?_, (hspell (.ofClass "com.other" "Tag")).2.1 hother, by decide, ?_, ?_⟩
  · refine hcongr _ fun name => ?_
    simp
  · exact (hunique _ hmap (by decide)).1
  · exact hapart _ _ (by decide) (by decide) (by decide) (by decide) (by decide)

end ValueShadow.Java
