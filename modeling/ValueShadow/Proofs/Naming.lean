import ValueShadow.Naming
import ValueShadow.Proofs.Result
import ValueShadow.Proofs.Text.Segments
import Mathlib.Data.List.DropRight

/-!
# Names of generated classes

`Naming.generatedClass` and `Naming.shadowName` succeed for the names that pass their check, and the
package and the flattened simple names are all that the result depends on
(`generatedClass_inj`, `shadowName_inj`). A class being generated has the same canonical name as the
generated class that other shadow classes spell (`classBeingGenerated_canonical`), whether the value
class asks for a stage of its chain or not, and whether the prefix starts with chain markers or not.
A name is its own canonical name exactly if its innermost simple name does not start with a marker
(`canonical_eq_self_iff`). All parts of a name that passes its check are identifiers
(`QualifiedName.check_eq_ok`), and any other name fails with its first part that is none
(`QualifiedName.check_eq_error`). What else is in the simple name of a class being generated is from
the prefix (`mem_classBeingGenerated_iff`).
-/

namespace ValueShadow

/-- No dot is in an identifier. -/
theorem isIdentifierPart_dot : isIdentifierPart '.' = false := by
  decide +kernel

/-- No slash is in an identifier. -/
theorem isIdentifierPart_slash : isIdentifierPart '/' = false := by
  decide +kernel

/-- The character zero is in no identifier. -/
theorem isIdentifierPart_zero : isIdentifierPart '\x00' = false := by
  decide +kernel

/-- No other characters are in an identifier than those that may stand in one. -/
theorem not_mem_of_isIdentifier {text : String} (h : isIdentifier text = true) {c : Char}
    (hc : isIdentifierPart c = false) : c ∉ text.toList := by
  rw [isIdentifier, Bool.and_eq_true] at h
  obtain ⟨hspells, -⟩ := h
  intro hmem
  cases htext : text.toList with
  | nil =>
    rw [htext] at hmem
    cases hmem
  | cons first rest =>
    rw [htext, spellsIdentifier, Bool.and_eq_true, List.all_eq_true] at hspells
    obtain ⟨hfirst, hrest⟩ := hspells
    rw [htext] at hmem
    rcases List.mem_cons.1 hmem with rfl | hmem
    · rw [isIdentifierPart_of_isIdentifierStart hfirst] at hc
      cases hc
    · rw [hrest c hmem] at hc
      cases hc

/-- An identifier is not empty. -/
theorem ne_empty_of_isIdentifier {text : String} (h : isIdentifier text = true) : text ≠ "" := by
  rintro rfl
  cases h

namespace QualifiedName

/-- The segments of the package; an empty package has none. -/
def packageSegments (name : QualifiedName) : List String :=
  if name.package.isEmpty then [] else Text.segments '.' name.package

/-- The package can be told from its segments. -/
theorem packageSegments_inj {name other : QualifiedName} :
    name.packageSegments = other.packageSegments ↔ name.package = other.package := by
  have hjoined : ∀ name : QualifiedName, Text.joined '.' name.packageSegments = name.package := by
    intro name
    rw [packageSegments]
    split
    · next h => exact (String.isEmpty_iff.1 h).symm
    · exact Text.joined_segments _ _
  constructor
  · intro h
    rw [← hjoined name, h, hjoined]
  · intro h
    rw [packageSegments, packageSegments, h]

/-- The check looks at the package before the class. -/
theorem problem?_eq (name : QualifiedName) :
    name.problem? =
      ((name.packageSegments.find? (!isIdentifier ·)).map .packageSegment).or
        ((name.simpleNames.find? (!isIdentifier ·)).map .simpleName) := by
  rw [problem?]
  split
  · next segment h =>
    have hfind : name.packageSegments.find? (!isIdentifier ·) = some segment := h
    rw [hfind, Option.map_some, Option.some_or]
  · next h =>
    have hfind : name.packageSegments.find? (!isIdentifier ·) = none := h
    rw [hfind, Option.map_none, Option.none_or]

/-- A name passes its check exactly if all its parts are identifiers. -/
theorem check_eq_ok {name : QualifiedName} :
    name.check = .ok () ↔ (∀ segment ∈ name.packageSegments, isIdentifier segment = true) ∧
      ∀ simpleName ∈ name.simpleNames, isIdentifier simpleName = true := by
  have hproblem : name.check = .ok () ↔ name.problem? = none := by
    rw [check]
    cases name.problem? <;> simp
  rw [hproblem, problem?_eq, Option.or_eq_none_iff]
  simp

/-- All parts of the name are identifiers. -/
def IsSpellable (name : QualifiedName) : Prop :=
  (∀ segment ∈ name.packageSegments, isIdentifier segment = true) ∧
    ∀ simpleName ∈ name.simpleNames, isIdentifier simpleName = true

/-- What is wrong with the name: its first part that is no identifier, in the package before the
class. -/
inductive FirstProblem (name : QualifiedName) : NameProblem → Prop where
  | packageSegment {segment : String} :
      FirstFailing (isIdentifier · = true) name.packageSegments segment →
      FirstProblem name (.packageSegment segment)
  | simpleName {simpleName : String} :
      (∀ segment ∈ name.packageSegments, isIdentifier segment = true) →
      FirstFailing (isIdentifier · = true) name.simpleNames simpleName →
      FirstProblem name (.simpleName simpleName)

/-- The problem that the check finds is the first one. -/
theorem problem?_eq_some {name : QualifiedName} {problem : NameProblem} :
    name.problem? = some problem ↔ name.FirstProblem problem := by
  rw [problem?_eq, Option.or_eq_some_iff]
  simp only [Option.map_eq_some_iff, Option.map_eq_none_iff, find?_not_eq_some]
  constructor
  · rintro (⟨segment, hfirst, rfl⟩ | ⟨hpackage, simpleName, hfirst, rfl⟩)
    · exact .packageSegment hfirst
    · exact .simpleName (by simpa using hpackage) hfirst
  · rintro (hfirst | ⟨hpackage, hfirst⟩)
    · exact .inl ⟨_, hfirst, rfl⟩
    · exact .inr ⟨by simpa using hpackage, _, hfirst, rfl⟩

/-- A name fails its check with its first problem. -/
theorem check_eq_error {name : QualifiedName} {e : ShadowError} :
    name.check = .error e ↔
      ∃ problem, name.FirstProblem problem ∧ e = .ambiguousName name problem := by
  simp only [← problem?_eq_some, check]
  cases name.problem? with
  | none => simp
  | some problem => simp [eq_comm]

@[simp]
theorem simpleName_withSimpleName (name : QualifiedName) (simpleName : String) :
    (name.withSimpleName simpleName).simpleName = simpleName := by
  simp [QualifiedName.simpleName, withSimpleName]

@[simp]
theorem withSimpleName_withSimpleName (name : QualifiedName) (first second : String) :
    (name.withSimpleName first).withSimpleName second = name.withSimpleName second := by
  simp [withSimpleName]

theorem withSimpleName_simpleName (name : QualifiedName) :
    name.withSimpleName name.simpleName = name := by
  cases name
  simp [withSimpleName, simpleName, List.dropLast_append_getLast]

/-- A class beside another one is this one exactly if the simple name is the same. -/
theorem withSimpleName_eq_self_iff {name : QualifiedName} {simpleName : String} :
    name.withSimpleName simpleName = name ↔ simpleName = name.simpleName := by
  constructor
  · intro h
    rw [← h, simpleName_withSimpleName]
  · rintro rfl
    exact name.withSimpleName_simpleName

/-- A top-level class is told by its package and its simple name. -/
theorem ofClass_inj {package package' simpleName simpleName' : String} :
    ofClass package simpleName = ofClass package' simpleName' ↔
      package = package' ∧ simpleName = simpleName' := by
  simp [ofClass]

/-- Classes inside two classes are different if these are. -/
theorem nested_inj {outer outer' : QualifiedName} {simpleName : String}
    (h : outer.nested simpleName = outer'.nested simpleName) : outer = outer' := by
  cases outer
  cases outer'
  simp_all [nested]

end QualifiedName

/-- What is left after the leading markers starts with none. -/
theorem stripMarkers_stripMarkers (marker : Char) (text : String) :
    stripMarkers marker (stripMarkers marker text) = stripMarkers marker text := by
  simp [stripMarkers, List.dropWhile_idempotent]

/-- Nothing is stripped exactly if the text does not start with the marker. -/
theorem stripMarkers_eq_self_iff {marker : Char} {text : String} :
    stripMarkers marker text = text ↔ text.toList.head? ≠ some marker := by
  rw [stripMarkers, ← String.toList_inj, String.toList_ofList, List.dropWhile_eq_self_iff]
  cases text.toList with
  | nil => simp
  | cons c rest => simp

namespace Naming

variable (naming : Naming)

/-- A canonical name is its own canonical name. -/
theorem canonical_canonical (name : QualifiedName) :
    naming.canonical (naming.canonical name) = naming.canonical name := by
  simp [canonical, stripMarkers_stripMarkers]

/-- The canonical name of a top-level class has the simple name without its leading markers. -/
theorem canonical_ofClass (package simpleName : String) :
    naming.canonical (.ofClass package simpleName) =
      .ofClass package (stripMarkers naming.chainMarker simpleName) :=
  rfl

/-- A name is canonical exactly if its innermost simple name does not start with the marker. -/
theorem canonical_eq_self_iff (name : QualifiedName) :
    naming.canonical name = name ↔ name.simpleName.toList.head? ≠ some naming.chainMarker := by
  rw [canonical, QualifiedName.withSimpleName_eq_self_iff, stripMarkers_eq_self_iff]

/-- A top-level class is canonical exactly if its name does not start with a marker. -/
theorem canonical_ofClass_eq_self_iff (package : String) {simpleName : String} :
    naming.canonical (.ofClass package simpleName) = .ofClass package simpleName ↔
      simpleName.toList.head? ≠ some naming.chainMarker :=
  naming.canonical_eq_self_iff (.ofClass package simpleName)

variable {naming}

/-- A generated class belongs to a name that passes its check, and it is the class of the flattened
simple name in the same package. -/
theorem generatedClass_eq_ok {value generated : QualifiedName} :
    naming.generatedClass value = .ok generated ↔
      value.check = .ok () ∧
        generated = .ofClass value.package (naming.generatedSimpleName value) := by
  rw [generatedClass, bind_eq_ok]
  constructor
  · rintro ⟨_, hc, h⟩
    cases h
    exact ⟨hc, rfl⟩
  · rintro ⟨hc, rfl⟩
    exact ⟨(), hc, rfl⟩

/-- A shadow class lies in the generated class. -/
theorem shadowName_eq_ok {value shadow : QualifiedName} :
    naming.shadowName value = .ok shadow ↔
      ∃ generated, naming.generatedClass value = .ok generated ∧
        shadow = generated.nested naming.shadowSuffix := by
  rw [shadowName, bind_eq_ok]
  constructor
  · rintro ⟨generated, hg, h⟩
    cases h
    exact ⟨generated, hg, rfl⟩
  · rintro ⟨generated, hg, rfl⟩
    exact ⟨generated, hg, rfl⟩

/-- Two value classes have one generated class exactly if their packages are equal and their simple
names are equal once they are joined. -/
theorem generatedClass_inj {a b generated generated' : QualifiedName}
    (ha : naming.generatedClass a = .ok generated)
    (hb : naming.generatedClass b = .ok generated') :
    generated = generated' ↔
      a.package = b.package ∧ Text.joined '_' a.simpleNames = Text.joined '_' b.simpleNames := by
  obtain ⟨-, rfl⟩ := generatedClass_eq_ok.1 ha
  obtain ⟨-, rfl⟩ := generatedClass_eq_ok.1 hb
  simp [QualifiedName.ofClass, generatedSimpleName]

/-- Two value classes have one shadow class exactly if they have one generated class. -/
theorem shadowName_inj {a b shadow shadow' : QualifiedName}
    (ha : naming.shadowName a = .ok shadow) (hb : naming.shadowName b = .ok shadow') :
    shadow = shadow' ↔
      a.package = b.package ∧ Text.joined '_' a.simpleNames = Text.joined '_' b.simpleNames := by
  obtain ⟨generated, hga, rfl⟩ := shadowName_eq_ok.1 ha
  obtain ⟨generated', hgb, rfl⟩ := shadowName_eq_ok.1 hb
  rw [← generatedClass_inj hga hgb]
  constructor
  · exact QualifiedName.nested_inj
  · rintro rfl
    rfl

/-- A value class whose name passes its check gets the derived class, or the class that it asks for
if this name passes its check too and the derived class is its canonical name. -/
theorem classBeingGenerated_eq_ok {value : ValueClass} {name : QualifiedName} :
    naming.classBeingGenerated value = .ok name ↔
      value.name.check = .ok () ∧
        (value.generatedName = none ∧
            name = .ofClass value.name.package (naming.generatedSimpleName value.name) ∨
          ∃ simpleName, value.generatedName = some simpleName ∧
            name = .ofClass value.name.package simpleName ∧ name.check = .ok () ∧
            naming.canonical name =
              .ofClass value.name.package (naming.generatedSimpleName value.name)) := by
  rw [classBeingGenerated, bind_eq_ok]
  simp only [generatedClass_eq_ok]
  cases value.generatedName with
  | none =>
    constructor
    · rintro ⟨_, ⟨hcheck, rfl⟩, h⟩
      cases h
      exact ⟨hcheck, .inl ⟨rfl, rfl⟩⟩
    · rintro ⟨hcheck, ⟨-, rfl⟩ | ⟨_, hown, -⟩⟩
      · exact ⟨_, ⟨hcheck, rfl⟩, rfl⟩
      · cases hown
  | some simpleName =>
    simp only [bind_eq_ok]
    constructor
    · rintro ⟨_, ⟨hcheck, rfl⟩, _, hname, h⟩
      split at h
      · next hcanonical =>
        cases h
        exact ⟨hcheck, .inr ⟨simpleName, rfl, rfl, hname, hcanonical⟩⟩
      · cases h
    · rintro ⟨hcheck, ⟨hown, -⟩ | ⟨_, hown, rfl, hname, hcanonical⟩⟩
      · cases hown
      · cases hown
        exact ⟨_, ⟨hcheck, rfl⟩, (), hname, if_pos hcanonical⟩

/-- A class being generated has the canonical name of the generated class that references spell:
without a name of its own it is that class, and a name of its own has to be a stage of it. -/
theorem classBeingGenerated_canonical {value : ValueClass} {name : QualifiedName}
    (h : naming.classBeingGenerated value = .ok name) :
    ∃ expected, naming.generatedClass value.name = .ok expected ∧
      naming.canonical name = naming.canonical expected := by
  obtain ⟨hcheck, hname⟩ := classBeingGenerated_eq_ok.1 h
  refine ⟨_, generatedClass_eq_ok.2 ⟨hcheck, rfl⟩, ?_⟩
  rcases hname with ⟨-, rfl⟩ | ⟨_, -, -, -, hcanonical⟩
  · rfl
  · rw [← hcanonical, canonical_canonical]

/-- A class being generated is in the package of its value class, whose name passes its check. Its
simple name is the derived one, or an identifier that is the derived one behind chain markers. -/
theorem classBeingGenerated_cases {value : ValueClass} {name : QualifiedName}
    (h : naming.classBeingGenerated value = .ok name) :
    value.name.check = .ok () ∧ ∃ simpleName, name = .ofClass value.name.package simpleName ∧
      (simpleName = naming.generatedSimpleName value.name ∨
        isIdentifier simpleName = true ∧
          stripMarkers naming.chainMarker simpleName = naming.generatedSimpleName value.name) := by
  obtain ⟨hcheck, ⟨-, rfl⟩ | ⟨simpleName, -, rfl, hname, hcanonical⟩⟩ :=
    classBeingGenerated_eq_ok.1 h
  · exact ⟨hcheck, _, rfl, .inl rfl⟩
  · refine ⟨hcheck, simpleName, rfl, .inr ⟨(QualifiedName.check_eq_ok.1 hname).2 _ (.head _), ?_⟩⟩
    rw [canonical_ofClass, QualifiedName.ofClass_inj] at hcanonical
    exact hcanonical.2

/-- A character that is in no identifier is in the simple name of a class being generated exactly if
it is in the prefix. -/
theorem mem_classBeingGenerated_iff {value : ValueClass} {name : QualifiedName}
    (h : naming.classBeingGenerated value = .ok name) {c : Char} (hc : isIdentifierPart c = false) :
    c ∈ name.simpleName.toList ↔ c ∈ naming.generatedPrefix.toList := by
  obtain ⟨hcheck, simpleName, rfl, hsimple⟩ := classBeingGenerated_cases h
  have hderived : c ∈ (naming.generatedSimpleName value.name).toList ↔
      c ∈ naming.generatedPrefix.toList := by
    rw [generatedSimpleName, String.toList_append, List.mem_append, or_iff_left]
    intro hmem
    obtain rfl | ⟨part, hpart, hpartc⟩ := Text.mem_of_mem_joined hmem
    · cases hc
    · exact not_mem_of_isIdentifier ((QualifiedName.check_eq_ok.1 hcheck).2 part hpart) hc hpartc
  change c ∈ simpleName.toList ↔ _
  obtain rfl | ⟨hidentifier, hstrip⟩ := hsimple
  · exact hderived
  · have hnone := not_mem_of_isIdentifier hidentifier hc
    rw [← hderived, ← hstrip, stripMarkers, String.toList_ofList]
    exact iff_of_false hnone fun hmem => hnone ((List.dropWhile_sublist _).subset hmem)

end Naming

end ValueShadow
