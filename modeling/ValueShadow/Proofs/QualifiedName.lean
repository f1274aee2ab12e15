import ValueShadow.Proofs.Text.Segments
import ValueShadow.QualifiedName
import Mathlib.Data.List.TakeWhile

/-!
# Reading dotted names

Where `QualifiedName.ofDotted` cuts a text into the package and the class (`ofDotted_eq_iff`). The
display of what is read is the text again (`display_ofDotted`), so different texts are read as
different names. A name is read back from its display (`ReadsBack`) if its parts look like what they
are (`readsBack_iff_readsAsPackage`, in a package `readsBack_iff`); the relative name of a class in
a package is then read as the same classes without the package (`ReadsBack.ofDotted_relativeName`).
The order of names is total (`TransOrd`, `LawfulEqOrd`).
-/

namespace ValueShadow.QualifiedName

open Text

/-- The outermost class does not look like a segment of the package, unless it is the only one. -/
def StartsClass (name : QualifiedName) : Prop :=
  isPackageSegment (name.simpleNames.head name.nonempty) = false ∨ name.simpleNames.length = 1

/-- A segment of a package is not empty. -/
theorem ne_empty_of_isPackageSegment {segment : String} (h : isPackageSegment segment = true) :
    segment ≠ "" := by
  rintro rfl
  cases h

/-- A name is read from a text exactly if the segments of the text are those of its package, which
all look like it, and its simple names, of which the first does not if there are several. -/
theorem ofDotted_eq_iff {text : String} {name : QualifiedName} :
    ofDotted text = name ↔
      ∃ before, (∀ segment ∈ before, isPackageSegment segment = true) ∧
        segments '.' text = before ++ name.simpleNames ∧ name.package = joined '.' before ∧
        name.StartsClass := by
  have hne := segments_ne_nil '.' text
  constructor
  · rintro rfl
    unfold ofDotted
    dsimp only
    split
    · next outermost inner hdrop =>
      have hcut := List.takeWhile_append_dropWhile (p := isPackageSegment) (l := segments '.' text)
      rw [hdrop] at hcut
      refine ⟨_, fun _ => List.mem_takeWhile_imp, hcut.symm, rfl, .inl ?_⟩
      have hhead := List.head_dropWhile_not isPackageSegment (l := segments '.' text)
        (by rw [hdrop]; exact List.cons_ne_nil _ _)
      simpa only [hdrop] using hhead
    · next hdrop =>
      have hall := List.dropWhile_eq_nil_iff.1 hdrop
      refine ⟨_, fun segment hsegment => hall segment (List.mem_of_mem_dropLast hsegment), ?_, rfl,
        .inr rfl⟩
      exact (List.dropLast_append_getLast hne).symm
  · rintro ⟨before, hbefore, hsegments, hpackage, hstarts⟩
    obtain ⟨package, simpleNames, hnames⟩ := name
    obtain ⟨outermost, inner, rfl⟩ := List.exists_cons_of_ne_nil hnames
    subst hpackage
    unfold ofDotted
    dsimp only at hsegments ⊢
    by_cases houtermost : isPackageSegment outermost = true
    · obtain hother | hone := hstarts
      · cases hother.symm.trans houtermost
      · obtain rfl : inner = [] := by simpa using hone
        have hdrop : (segments '.' text).dropWhile isPackageSegment = [] := by
          rw [hsegments, List.dropWhile_append_of_pos hbefore]
          simp [houtermost]
        split
        · next hcons => cases hdrop.symm.trans hcons
        · simp [hsegments]
    · have hdrop : (segments '.' text).dropWhile isPackageSegment = outermost :: inner := by
        rw [hsegments, List.dropWhile_append_of_pos hbefore, List.dropWhile_cons_of_neg houtermost]
      have htake : (segments '.' text).takeWhile isPackageSegment = before := by
        rw [hsegments, List.takeWhile_append_of_pos hbefore, List.takeWhile_cons_of_neg houtermost,
          List.append_nil]
      split
      · next hcons =>
        cases hdrop.symm.trans hcons
        rw [htake]
      · next hnil => cases hdrop.symm.trans hnil

/-- A text is read as a name whose display is the text. -/
theorem display_ofDotted (text : String) : (ofDotted text).display = text := by
  obtain ⟨before, hbefore, hsegments, hpackage, -⟩ := ofDotted_eq_iff.1 (Eq.refl (ofDotted text))
  have hempty : joined '.' before = "" ↔ before = [] := joined_eq_empty_iff fun segment hsegment =>
    ne_empty_of_isPackageSegment (hbefore segment hsegment)
  rw [display, relativeName, hpackage]
  by_cases hnil : before = []
  · rw [if_pos (String.isEmpty_iff.2 (hempty.2 hnil))]
    rw [hnil, List.nil_append] at hsegments
    rw [← hsegments, joined_segments]
  · rw [if_neg (mt String.isEmpty_iff.1 (mt hempty.1 hnil))]
    have happend : joined '.' (before ++ (ofDotted text).simpleNames) =
        joined '.' before ++ "." ++ joined '.' (ofDotted text).simpleNames :=
      joined_append hnil (ofDotted text).nonempty
    rw [← happend, ← hsegments, joined_segments]

/-- Different texts are read as different names. -/
theorem ofDotted_inj {text other : String} : ofDotted text = ofDotted other ↔ text = other := by
  constructor
  · intro h
    rw [← display_ofDotted text, h, display_ofDotted]
  · rintro rfl
    rfl

/-! ## Names that are read back -/

/-- The name is read from its own display. -/
def ReadsBack (name : QualifiedName) : Prop :=
  ofDotted name.display = name

instance (name : QualifiedName) : Decidable name.ReadsBack :=
  inferInstanceAs (Decidable (ofDotted name.display = name))

section
variable {name other : QualifiedName}

/-- A name in a package is written as the package and the relative name with a dot between them. -/
theorem display_of_package_ne (h : name.package ≠ "") :
    name.display = name.package ++ "." ++ name.relativeName := by
  rw [display, if_neg (mt String.isEmpty_iff.1 h)]

/-- A name in a package is longer than its relative name. -/
theorem display_ne_relativeName (h : name.package ≠ "") : name.display ≠ name.relativeName := by
  intro hsame
  have hlength := congrArg String.length hsame
  rw [display_of_package_ne h, String.length_append, String.length_append] at hlength
  have hdot : ".".length = 1 := rfl
  omega

/-- A name in a package is read back exactly if all segments of the package look like it, no dot is
in a simple name, and the outermost class does not look like a package unless it is the only one. -/
theorem readsBack_iff (hpackage : name.package ≠ "") :
    name.ReadsBack ↔
      (∀ segment ∈ segments '.' name.package, isPackageSegment segment = true) ∧
        (∀ simpleName ∈ name.simpleNames, '.' ∉ simpleName.toList) ∧ name.StartsClass := by
  have hsegments : segments '.' name.display =
      segments '.' name.package ++ segments '.' name.relativeName := by
    rw [display_of_package_ne hpackage]
    exact segments_append _ _
  rw [ReadsBack, ofDotted_eq_iff, hsegments]
  constructor
  · rintro ⟨before, hbefore, hcut, hjoined, hstarts⟩
    have hfree : ∀ segment ∈ before ++ name.simpleNames, '.' ∉ segment.toList := by
      rw [← hcut, ← hsegments]
      exact fun segment => separator_not_mem_segment
    have hne : before ≠ [] := by
      rintro rfl
      exact hpackage hjoined
    rw [hjoined, segments_joined hne fun segment hsegment =>
      hfree segment (List.mem_append_left _ hsegment)]
    exact ⟨hbefore, fun simpleName hsimple => hfree simpleName (List.mem_append_right _ hsimple),
      hstarts⟩
  · rintro ⟨hbefore, hfree, hstarts⟩
    refine ⟨_, hbefore, ?_, (joined_segments _ _).symm, hstarts⟩
    rw [relativeName, segments_joined name.nonempty hfree]

/-- A name without a package is read back exactly if no dot is in a simple name and the outermost
class does not look like a package unless it is the only one. -/
theorem readsBack_iff_of_package_eq (hpackage : name.package = "") :
    name.ReadsBack ↔
      (∀ simpleName ∈ name.simpleNames, '.' ∉ simpleName.toList) ∧ name.StartsClass := by
  have hdisplay : name.display = joined '.' name.simpleNames :=
    if_pos (String.isEmpty_iff.2 hpackage)
  rw [ReadsBack, ofDotted_eq_iff, hdisplay, hpackage]
  constructor
  · rintro ⟨before, hbefore, hsegments, hjoined, hstarts⟩
    obtain rfl : before = [] := (joined_eq_empty_iff fun segment hsegment =>
      ne_empty_of_isPackageSegment (hbefore segment hsegment)).1 hjoined.symm
    rw [List.nil_append] at hsegments
    refine ⟨fun simpleName hsimple => ?_, hstarts⟩
    rw [← hsegments] at hsimple
    exact separator_not_mem_segment hsimple
  · rintro ⟨hfree, hstarts⟩
    exact ⟨[], by simp, segments_joined name.nonempty hfree, rfl, hstarts⟩

/-- The text is a package: it is empty, or all its segments look like those of one. -/
def ReadsAsPackage (package : String) : Prop :=
  package = "" ∨ ∀ segment ∈ segments '.' package, isPackageSegment segment = true

/-- A name is read back exactly if its package is one, no dot is in a simple name, and the outermost
class does not look like a package unless it is the only one. -/
theorem readsBack_iff_readsAsPackage :
    name.ReadsBack ↔
      ReadsAsPackage name.package ∧ (∀ simpleName ∈ name.simpleNames, '.' ∉ simpleName.toList) ∧
        name.StartsClass := by
  by_cases hpackage : name.package = ""
  · rw [readsBack_iff_of_package_eq hpackage, ReadsAsPackage]
    simp [hpackage]
  · rw [readsBack_iff hpackage, ReadsAsPackage]
    simp [hpackage]

/-- What is read of a text is read back. -/
theorem readsBack_ofDotted (text : String) : (ofDotted text).ReadsBack :=
  congrArg ofDotted (display_ofDotted text)

/-- Its package is one. -/
theorem readsAsPackage_ofDotted (text : String) : ReadsAsPackage (ofDotted text).package :=
  (readsBack_iff_readsAsPackage.1 (readsBack_ofDotted text)).1

/-- A name that is read back is read back in any other package. -/
theorem ReadsBack.inPackage (h : name.ReadsBack) {package : String}
    (hpackage : ReadsAsPackage package) : (name.inPackage package).ReadsBack := by
  obtain ⟨-, hfree, hstarts⟩ := readsBack_iff_readsAsPackage.1 h
  exact readsBack_iff_readsAsPackage.2 ⟨hpackage, hfree, hstarts⟩

/-- The relative name of a class is read as the same classes without a package. -/
theorem ReadsBack.ofDotted_relativeName (h : name.ReadsBack) (hpackage : name.package ≠ "") :
    ofDotted name.relativeName = name.inPackage "" := by
  obtain ⟨-, hfree, hstarts⟩ := (readsBack_iff hpackage).1 h
  refine ofDotted_eq_iff.2 ⟨[], by simp, ?_, rfl, hstarts⟩
  rw [relativeName, segments_joined name.nonempty hfree, List.nil_append]
  rfl

/-- The outermost class of a name is read back too. -/
theorem ReadsBack.topLevel (h : name.ReadsBack) (hpackage : name.package ≠ "") :
    name.topLevel.ReadsBack := by
  obtain ⟨hbefore, hfree, -⟩ := (readsBack_iff hpackage).1 h
  have hiff : name.topLevel.ReadsBack ↔ _ := readsBack_iff hpackage
  refine hiff.2 ⟨hbefore, ?_, .inr rfl⟩
  intro simpleName hsimple
  obtain rfl := List.mem_singleton.1 hsimple
  exact hfree _ (List.head_mem name.nonempty)

/-- Names that are read back are equal if their displays are. -/
theorem ReadsBack.display_inj (h : name.ReadsBack) (hother : other.ReadsBack) :
    name.display = other.display ↔ name = other := by
  constructor
  · intro hdisplay
    rw [← h, hdisplay, hother]
  · rintro rfl
    rfl

/-! ## Outermost classes -/

@[simp]
theorem package_topLevel (name : QualifiedName) : name.topLevel.package = name.package :=
  rfl

theorem simpleName_topLevel (name : QualifiedName) :
    name.topLevel.simpleName = name.simpleNames.head name.nonempty :=
  rfl

/-- A class is its own outermost one if it is named by its package and simple name. -/
@[simp]
theorem ofClass_topLevel (name : QualifiedName) :
    .ofClass name.package name.topLevel.simpleName = name.topLevel :=
  rfl

/-- Outermost classes are equal if their packages and simple names are. -/
theorem topLevel_inj : name.topLevel = other.topLevel ↔
    name.package = other.package ∧ name.topLevel.simpleName = other.topLevel.simpleName := by
  constructor
  · intro h
    exact ⟨(congrArg package h :), congrArg simpleName h⟩
  · rintro ⟨hpackage, hsimple⟩
    rw [← ofClass_topLevel name, hpackage, hsimple, ofClass_topLevel]

end

/-! ## The order of names -/

section
open Std

instance : TransOrd QualifiedName :=
  inferInstanceAs (TransCmp (compareLex (compareOn package) (compareOn simpleNames)))

instance : LawfulEqOrd QualifiedName where
  eq_of_compare {a b} h := by
    obtain ⟨hpackage, hsimple⟩ := Ordering.then_eq_eq.1 h
    cases a
    cases b
    cases LawfulEqOrd.eq_of_compare hpackage
    cases LawfulEqOrd.eq_of_compare hsimple
    rfl

/-- The order by package, then by the simple names from the outermost. -/
instance : LE QualifiedName :=
  leOfOrd

theorem le_iff_isLE_compare {a b : QualifiedName} : a ≤ b ↔ (compare a b).isLE = true :=
  Iff.rfl

end

end ValueShadow.QualifiedName
