import ValueShadow.Proofs.Java.Scope

/-!
# Reading class names in a file

`classRead` reads the text of a class name in a file as the language does: a text that starts with a
package is a name in full, and otherwise the first identifier denotes the first class of that simple
name among the declared class, the imported ones, and the referenced ones of the file's package, or
else a class of `java.lang`. A spelled name is read as the class that it was spelled for unless it
is spelled by the simple name of a class of `java.lang` that is also the simple name of a referenced
class of the file's package (`classRead_spell_iff`). That happens only in a package whose name comes
after `java.lang` (`spellings_read_back_iff`), because the least class of the two packages owns the
simple name.
-/

namespace ValueShadow.Java

open Scope

/-- The class inside this one that the simple names lead to. -/
def inner (outer : QualifiedName) (simpleNames : List String) : QualifiedName :=
  ⟨outer.package, outer.simpleNames ++ simpleNames, by simp [outer.nonempty]⟩

/-- The referenced classes of the file's package. -/
def packageClasses (package : String) (names : List QualifiedName) : List QualifiedName :=
  (names.map QualifiedName.topLevel).filter (·.package == package)

/-- The class that a simple name denotes in a file. -/
def classOf (package : String) (declared : QualifiedName) (names : List QualifiedName)
    (imports : List String) (simpleName : String) : QualifiedName :=
  let visible :=
    declared.topLevel :: imports.map QualifiedName.ofDotted ++ packageClasses package names
  (visible.find? (·.simpleName == simpleName)).getD (.ofClass "java.lang" simpleName)

/-- The class that a text denotes in a file. -/
def classRead (package : String) (declared : QualifiedName) (names : List QualifiedName)
    (imports : List String) (text : String) : QualifiedName :=
  let name := QualifiedName.ofDotted text
  if name.package.isEmpty then
    inner (classOf package declared names imports name.topLevel.simpleName) name.simpleNames.tail
  else
    name

/-- The only item that satisfies a condition is found. -/
theorem find?_eq_some_of_unique {α : Type} {p : α → Bool} {items : List α} {a : α}
    (hmem : a ∈ items) (hp : p a = true) (hunique : ∀ b ∈ items, p b = true → b = a) :
    items.find? p = some a := by
  cases hfind : items.find? p with
  | none => exact absurd hp (List.find?_eq_none.1 hfind a hmem)
  | some b => rw [hunique b (List.mem_of_find?_eq_some hfind) (List.find?_some hfind)]

/-- A class is reached again from its outermost one. -/
theorem inner_topLevel (name : QualifiedName) :
    inner name.topLevel name.simpleNames.tail = name := by
  cases name
  simp [inner, QualifiedName.topLevel]

theorem IsReferenced.ofClass_eq {names : List QualifiedName} {top : QualifiedName}
    (h : IsReferenced names top) : .ofClass top.package top.simpleName = top := by
  obtain ⟨name, -, rfl⟩ := h
  rfl

section
variable {package : String} {declared : QualifiedName} {names : List QualifiedName}
  {imports : List String} {simpleName : String}

/-- The declared class is the first that a simple name may denote. -/
theorem classOf_declared :
    classOf package declared names imports declared.topLevel.simpleName = declared.topLevel := by
  rw [classOf, List.cons_append, List.find?_cons_of_pos (by simp), Option.getD_some]

/-- Another simple name denotes an imported class, or else a referenced one of the file's package,
or else one of `java.lang`. -/
theorem classOf_of_ne (hne : simpleName ≠ declared.topLevel.simpleName) :
    classOf package declared names imports simpleName =
      (((imports.map QualifiedName.ofDotted).find? (·.simpleName == simpleName)).or
        ((packageClasses package names).find? (·.simpleName == simpleName))).getD
          (.ofClass "java.lang" simpleName) := by
  rw [classOf, List.cons_append, List.find?_cons_of_neg (by simpa using Ne.symm hne),
    List.find?_append]

/-- The class of a simple name in the file's package is found if the file refers to it. -/
theorem find?_packageClasses :
    (packageClasses package names).find? (·.simpleName == simpleName) =
      if IsReferenced names (.ofClass package simpleName) then
        some (.ofClass package simpleName)
      else none := by
  have hmem : ∀ top, top ∈ packageClasses package names ↔
      IsReferenced names top ∧ top.package = package := by
    intro top
    rw [packageClasses, List.mem_filter, List.mem_map, beq_iff_eq, IsReferenced]
  have hunique : ∀ top ∈ packageClasses package names, (top.simpleName == simpleName) = true →
      top = .ofClass package simpleName := by
    intro top htop hsame
    obtain ⟨hreferenced, rfl⟩ := (hmem top).1 htop
    rw [← beq_iff_eq.1 hsame, hreferenced.ofClass_eq]
  split
  · next hown =>
    exact find?_eq_some_of_unique ((hmem _).2 ⟨hown, rfl⟩) (beq_iff_eq.2 rfl) hunique
  · next hown =>
    refine List.find?_eq_none.2 fun top htop hsame => hown ?_
    exact hunique top htop hsame ▸ ((hmem top).1 htop).1

end

section
variable {package : String} {declared : QualifiedName} {names : List QualifiedName}
  (hdeclared : declared.package = package)
  (hnames : ∀ name ∈ names, name.package ≠ "" ∧ name.ReadsBack)
include hdeclared hnames

/-- The imported classes are the owners that are not visible without an import. -/
theorem mem_importedClasses_iff {top : QualifiedName} :
    top ∈ (ofNames package declared names).imports.map QualifiedName.ofDotted ↔
      Owns package declared names top ∧ isImplicit package top = false := by
  -- Such an owner is not the declared class, so it is around a referenced class.
  have hreads : ∀ owner, Owns package declared names owner → isImplicit package owner = false →
      QualifiedName.ofDotted owner.display = owner := by
    intro owner howns hvisible
    cases howns with
    | declared => simp [isImplicit, hdeclared] at hvisible
    | implicit _ hleast | explicit _ _ hleast =>
      obtain ⟨⟨⟨name, hname, rfl⟩, -⟩, -⟩ := hleast
      exact (hnames name hname).2.topLevel (hnames name hname).1
  simp only [List.mem_map, mem_imports_iff hdeclared]
  constructor
  · rintro ⟨_, ⟨owner, howns, hvisible, rfl⟩, rfl⟩
    rw [hreads owner howns hvisible]
    exact ⟨howns, hvisible⟩
  · rintro ⟨howns, hvisible⟩
    exact ⟨top.display, ⟨top, howns, hvisible, rfl⟩, hreads top howns hvisible⟩

/-- No import has the simple name of a referenced class that is visible without one. -/
theorem find?_importedClasses_eq_none {top : QualifiedName} (htop : IsReferenced names top)
    (hvisible : isImplicit package top = true) :
    ((ofNames package declared names).imports.map QualifiedName.ofDotted).find?
      (·.simpleName == top.simpleName) = none := by
  refine List.find?_eq_none.2 fun other hother hsame => ?_
  obtain ⟨howns, hvisible'⟩ := (mem_importedClasses_iff hdeclared hnames).1 hother
  exact howns.simpleName_ne hdeclared hvisible' htop hvisible (beq_iff_eq.1 hsame).symm

/-- An owner that is not visible without an import is the only import of its simple name. -/
theorem find?_importedClasses_eq_some {top : QualifiedName}
    (howns : Owns package declared names top) (hvisible : isImplicit package top = false) :
    ((ofNames package declared names).imports.map QualifiedName.ofDotted).find?
      (·.simpleName == top.simpleName) = some top := by
  refine find?_eq_some_of_unique ((mem_importedClasses_iff hdeclared hnames).2 ⟨howns, hvisible⟩)
    (beq_iff_eq.2 rfl) fun other hother hsame => ?_
  obtain ⟨howns', -⟩ := (mem_importedClasses_iff hdeclared hnames).1 hother
  exact howns'.unique howns (beq_iff_eq.1 hsame)

/-- The simple name of an owner denotes it, unless the owner is a class of `java.lang` and the file
refers to a class of its own package of that simple name. -/
theorem classOf_of_owns {top : QualifiedName} (howns : Owns package declared names top) :
    classOf package declared names (ofNames package declared names).imports top.simpleName =
      if top.package = "java.lang" ∧ IsReferenced names (.ofClass package top.simpleName) then
        .ofClass package top.simpleName
      else top := by
  cases id howns with
  | declared =>
    rw [classOf_declared]
    split
    · rw [← hdeclared]
      rfl
    · rfl
  | implicit hne hleast =>
    obtain ⟨⟨htop, hvisible, -⟩, -⟩ := hleast
    have hpackage : top.package = package ∨ top.package = "java.lang" := by
      simpa [isImplicit] using hvisible
    rw [classOf_of_ne hne, find?_importedClasses_eq_none hdeclared hnames htop hvisible,
      Option.none_or, find?_packageClasses]
    by_cases hown : IsReferenced names (.ofClass package top.simpleName)
    · rw [if_pos hown, Option.getD_some]
      split
      · rfl
      · next hlang =>
        rw [and_iff_left hown] at hlang
        rw [← hpackage.resolve_right hlang, htop.ofClass_eq]
    · have hlang : top.package = "java.lang" := by
        refine hpackage.resolve_left fun hpackage => hown ?_
        rwa [← hpackage, htop.ofClass_eq]
      rw [if_neg hown, Option.getD_none, if_neg fun h => hown h.2, ← hlang, htop.ofClass_eq]
  | explicit hne _ hleast =>
    obtain ⟨⟨-, hvisible, -⟩, -⟩ := hleast
    rw [classOf_of_ne hne, find?_importedClasses_eq_some hdeclared hnames howns hvisible,
      Option.some_or, Option.getD_some, if_neg]
    rintro ⟨hlang, -⟩
    simp [isImplicit, hlang] at hvisible

/-- A spelled name is read as the class that it was spelled for, unless its outermost class is an
owner from `java.lang` and the file refers to a class of its own package of that simple name. -/
theorem classRead_spell_iff {name : QualifiedName} (hname : name.ReadsBack)
    (hpackage : name.package ≠ "") :
    classRead package declared names (ofNames package declared names).imports
        ((ofNames package declared names).spell name) = name ↔
      ¬ (Owns package declared names name.topLevel ∧
        name.package = "java.lang" ∧ package ≠ "java.lang" ∧
        IsReferenced names (.ofClass package name.topLevel.simpleName)) := by
  by_cases howns : Owns package declared names name.topLevel
  · rw [spell_of_owns howns, classRead, hname.ofDotted_relativeName hpackage]
    have hclass := classOf_of_owns hdeclared hnames howns
    change inner (classOf package declared names (ofNames package declared names).imports
      name.topLevel.simpleName) name.simpleNames.tail = name ↔ _
    rw [hclass, QualifiedName.package_topLevel]
    split
    · next hlang =>
      obtain ⟨hlang, hown⟩ := hlang
      by_cases hsame : package = "java.lang"
      · have htop : QualifiedName.ofClass package name.topLevel.simpleName = name.topLevel := by
          rw [hsame, ← hlang]
          rfl
        rw [htop, inner_topLevel]
        simp [hsame]
      · refine iff_of_false (fun hinner => hsame ?_) fun h => h ⟨howns, hlang, hsame, hown⟩
        rw [← hlang, ← hinner]
        rfl
    · next hlang =>
      rw [inner_topLevel]
      refine iff_of_true rfl ?_
      rintro ⟨-, hpackage, -, hown⟩
      exact hlang ⟨hpackage, hown⟩
  · rw [spell_of_not_owns howns, classRead, hname, if_neg (mt String.isEmpty_iff.1 hpackage)]
    exact iff_of_true rfl fun h => howns h.1

end

/-! ## Classes of `java.lang` and of the file's package -/

/-- Classes of one simple name stand in the order of their packages. -/
theorem ofClass_le_ofClass {package other simpleName : String} :
    QualifiedName.ofClass package simpleName ≤ .ofClass other simpleName ↔ ¬ other < package := by
  rw [QualifiedName.le_iff_isLE_compare]
  change ((compare package other).then (compare [simpleName] [simpleName])).isLE = true ↔ _
  have hself : compare [simpleName] [simpleName] = .eq := Std.ReflCmp.compare_self
  rw [hself, Ordering.then_eq, ← Ordering.ne_gt_iff_isLE, Std.OrientedCmp.gt_iff_lt]
  exact not_congr compareOfLessAndEq_eq_lt

section
variable {package : String} {declared : QualifiedName} {names : List QualifiedName}

/-- A class that is visible without an import owns its simple name if no smaller package is searched
for it. -/
theorem owns_of_not_lt {name : QualifiedName} (hname : name ∈ names)
    (hne : name.topLevel.simpleName ≠ declared.topLevel.simpleName)
    (hvisible : isImplicit package name = true) (hpackage : ¬ package < name.package)
    (hlang : ¬ "java.lang" < name.package) : Owns package declared names name.topLevel := by
  refine .implicit hne ⟨⟨⟨name, hname, rfl⟩, hvisible, rfl⟩, ?_⟩
  rintro other ⟨hother, hvisible', hsame⟩
  rw [← hother.ofClass_eq, hsame]
  refine ofClass_le_ofClass.2 ?_
  have hsearched : other.package = package ∨ other.package = "java.lang" := by
    simpa [isImplicit] using hvisible'
  rcases hsearched with hother | hother
  · rwa [hother]
  · rwa [hother]

/-- Of a class of the file's package and one of `java.lang` that share their simple name, the one of
the smaller package owns it. -/
theorem owner?_of_clash {own lang : QualifiedName} (hown : own ∈ names) (hlang : lang ∈ names)
    (hpackage : own.package = package) (hpackage' : lang.package = "java.lang")
    (hsame : own.topLevel.simpleName = lang.topLevel.simpleName)
    (hne : own.topLevel.simpleName ≠ declared.topLevel.simpleName) :
    (ofNames package declared names).owner? own.topLevel.simpleName =
      some (if "java.lang" < package then lang.topLevel else own.topLevel) := by
  rw [owner?_eq_some_iff]
  split
  · next hlt =>
    refine ⟨owns_of_not_lt hlang (hsame ▸ hne) (by simp [isImplicit, hpackage']) ?_ ?_, hsame.symm⟩
    · rw [hpackage']
      exact String.lt_asymm hlt
    · rw [hpackage']
      exact String.lt_irrefl _
  · next hnot =>
    refine ⟨owns_of_not_lt hown hne (by simp [isImplicit, hpackage]) ?_ ?_, rfl⟩
    · rw [hpackage]
      exact String.lt_irrefl _
    · rwa [hpackage]

/-- In a file of a package, the spelled names are read as the classes that they were spelled for
exactly if the package does not come after `java.lang`, or no referenced class of the package has
the simple name of a referenced class of `java.lang`, unless it is that of the declared class. Of
two such classes the one of the smaller package owns the simple name. -/
theorem spellings_read_back_iff (package : String) (declared : QualifiedName)
    (names : List QualifiedName) (hdeclared : declared.package = package)
    (hnames : ∀ name ∈ names, name.package ≠ "" ∧ name.ReadsBack) :
    ((∀ name ∈ names, classRead package declared names (ofNames package declared names).imports
        ((ofNames package declared names).spell name) = name) ↔
      ("java.lang" < package → ∀ own ∈ names, ∀ lang ∈ names, own.package = package →
        lang.package = "java.lang" → own.topLevel.simpleName = lang.topLevel.simpleName →
        own.topLevel.simpleName = declared.topLevel.simpleName)) ∧
    ∀ own ∈ names, ∀ lang ∈ names, own.package = package → lang.package = "java.lang" →
      own.topLevel.simpleName = lang.topLevel.simpleName →
      own.topLevel.simpleName ≠ declared.topLevel.simpleName →
      (ofNames package declared names).owner? own.topLevel.simpleName =
        some (if "java.lang" < package then lang.topLevel else own.topLevel) := by
  refine ⟨⟨fun hread hlt own hown lang hlang hpackage hpackage' hsame => ?_, ?_⟩, ?_⟩
  · by_contra hne
    have howner := owner?_of_clash hown hlang hpackage hpackage' hsame hne
    rw [if_pos hlt, owner?_eq_some_iff] at howner
    refine (classRead_spell_iff hdeclared hnames (hnames lang hlang).2 (hnames lang hlang).1).1
      (hread lang hlang) ⟨howner.1, hpackage', (String.ne_of_lt hlt).symm, own, hown, ?_⟩
    rw [← hsame, ← hpackage]
    rfl
  · intro hclash lang hlang
    rw [classRead_spell_iff hdeclared hnames (hnames lang hlang).2 (hnames lang hlang).1]
    rintro ⟨howns, hpackage', hother, own, hown, htop⟩
    have hpackage : own.package = package := (congrArg QualifiedName.package htop :)
    have hsame : own.topLevel.simpleName = lang.topLevel.simpleName :=
      (congrArg QualifiedName.simpleName htop :)
    by_cases hne : own.topLevel.simpleName = declared.topLevel.simpleName
    · have heq := howns.unique .declared (hsame.symm.trans hne)
      refine hother ?_
      rw [← hdeclared, ← (QualifiedName.topLevel_inj.1 heq).1, hpackage']
    · have howner := owner?_of_clash hown hlang hpackage hpackage' hsame hne
      by_cases hlt : "java.lang" < package
      · exact hne (hclash hlt own hown lang hlang hpackage hpackage' hsame)
      · rw [if_neg hlt, owner?_eq_some_iff] at howner
        have heq := howner.1.unique howns hsame
        refine hother ?_
        rw [← hpackage, (QualifiedName.topLevel_inj.1 heq).1, hpackage']
  · exact fun own hown lang hlang => owner?_of_clash hown hlang

end

/-- A class of the package and one of `java.lang` that share their simple name. -/
def integerNames (package : String) : List QualifiedName :=
  [.ofClass package "Integer", .ofClass "java.lang" "Integer"]

/-- In a package before `java.lang` both classes are read back, and the one of the package owns the
simple name. -/
theorem spellings_read_back_iff_integer :
    (∀ name ∈ integerNames "com.example",
      classRead "com.example" orderClass (integerNames "com.example")
        (ofNames "com.example" orderClass (integerNames "com.example")).imports
        ((ofNames "com.example" orderClass (integerNames "com.example")).spell name) = name) ∧
      (ofNames "com.example" orderClass (integerNames "com.example")).owner? "Integer" =
        some (.ofClass "com.example" "Integer") := by
  obtain ⟨hread, howner⟩ :=
    spellings_read_back_iff "com.example" orderClass (integerNames "com.example") rfl (by decide)
  have hbefore : ¬ "java.lang" < "com.example" := by decide
  refine ⟨hread.2 fun hlt => absurd hlt hbefore, ?_⟩
  have hown := howner _ (.head _) _ (.tail _ (.head _)) rfl rfl rfl (by decide)
  rwa [if_neg hbefore] at hown

/-- In a package after `java.lang` the simple name is written for the class of `java.lang`, and it
is read as the class of the package. -/
theorem not_spellings_read_back_integer :
    (∀ name ∈ integerNames "org.example", name.package ≠ "" ∧ name.ReadsBack) ∧
      (ofNames "org.example" (orderClass.inPackage "org.example")
        (integerNames "org.example")).spell (.ofClass "java.lang" "Integer") = "Integer" ∧
      classRead "org.example" (orderClass.inPackage "org.example") (integerNames "org.example")
        (ofNames "org.example" (orderClass.inPackage "org.example")
          (integerNames "org.example")).imports "Integer" = .ofClass "org.example" "Integer" ∧
      ¬ ∀ name ∈ integerNames "org.example",
        classRead "org.example" (orderClass.inPackage "org.example") (integerNames "org.example")
          (ofNames "org.example" (orderClass.inPackage "org.example")
            (integerNames "org.example")).imports
          ((ofNames "org.example" (orderClass.inPackage "org.example")
            (integerNames "org.example")).spell name) = name := by
  decide

end ValueShadow.Java
