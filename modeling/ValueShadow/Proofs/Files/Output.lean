import ValueShadow.Proofs.Files.Writing
import ValueShadow.Proofs.Session.Ownership

/-!
# Paths of generated classes

A generated class is written to the steps of its package and one step more, its file name
(`GeneratedClass.pathSteps`). They are plain steps if the prefix of the names holds no slash, and
only then (`isPlain_pathSteps_iff`): the packages and the simple names are identifiers. Then
the paths of different units are apart from each other (`eq_of_pathSteps_onWay`).
-/

namespace ValueShadow

open Text

namespace GeneratedClass

/-- The steps from the output directory to the file of a generated class. -/
def pathSteps (generated : GeneratedClass) (format : OutputFormat) : List String :=
  generated.wrapper.name.packageSegments ++ [generated.fileName format]

/-- The path of the file is the output directory followed by plain steps only, one for each segment
of the package and the file name. -/
def StaysInside (generated : GeneratedClass) (directory : String) (format : OutputFormat) : Prop :=
  generated.outputPath directory format = Path.below directory (generated.pathSteps format) ∧
    ∀ step ∈ generated.pathSteps format, Path.IsPlain step

end GeneratedClass

namespace Session

variable {session : Session} {unit other : GeneratedClass} {directory : String}
  {format : OutputFormat}

/-- The wrapper of a unit is a class being generated. -/
theorem exists_classBeingGenerated (hunit : unit ∈ session.run.units) :
    ∃ value, session.settings.naming.classBeingGenerated value = .ok unit.wrapper.name := by
  obtain ⟨value, -, -, _, hassembled⟩ := exists_assembled hunit
  exact ⟨value, hassembled.wrapperName⟩

/-- The wrapper of a unit is a top-level class. -/
theorem wrapper_name_eq (hunit : unit ∈ session.run.units) :
    unit.wrapper.name = .ofClass unit.wrapper.name.package unit.wrapper.name.simpleName := by
  obtain ⟨value, hgenerated⟩ := exists_classBeingGenerated hunit
  obtain ⟨-, _, hname, -⟩ := Naming.classBeingGenerated_cases hgenerated
  rw [hname]
  rfl

/-- The segments of the package of a unit are identifiers. -/
theorem isIdentifier_packageSegments (hunit : unit ∈ session.run.units) {segment : String}
    (hsegment : segment ∈ unit.wrapper.name.packageSegments) : isIdentifier segment = true := by
  obtain ⟨value, hgenerated⟩ := exists_classBeingGenerated hunit
  obtain ⟨hcheck, _, hname, -⟩ := Naming.classBeingGenerated_cases hgenerated
  have hpackage : unit.wrapper.name.packageSegments = value.name.packageSegments := by
    rw [QualifiedName.packageSegments_inj, hname]
    rfl
  rw [hpackage] at hsegment
  exact (QualifiedName.check_eq_ok.1 hcheck).1 segment hsegment

/-- An identifier is a plain step. -/
theorem isPlain_of_isIdentifier {text : String} (h : isIdentifier text = true) :
    Path.IsPlain text := by
  have hdot := not_mem_of_isIdentifier h isIdentifierPart_dot
  refine ⟨ne_empty_of_isIdentifier h, not_mem_of_isIdentifier h isIdentifierPart_slash, ?_, ?_⟩
  · rintro rfl
    exact hdot (by decide)
  · rintro rfl
    exact hdot (by decide)

/-- The ending of a file name stands behind a dot and could stand in an identifier. -/
theorem isIdentifierPart_of_mem_fileEnding {c : Char} (h : c ∈ format.fileEnding.toList) :
    isIdentifierPart c = true := by
  have hall : format.fileEnding.toList.all isIdentifierPart = true := by
    cases format <;> decide
  exact List.all_eq_true.1 hall c h

/-- A character that is neither in an identifier nor a dot is in the file name of a unit exactly if
it is in the prefix. -/
theorem mem_fileName_iff (hunit : unit ∈ session.run.units) {c : Char}
    (hc : isIdentifierPart c = false) (hdot : c ≠ '.') :
    c ∈ (unit.fileName format).toList ↔ c ∈ session.settings.naming.generatedPrefix.toList := by
  obtain ⟨value, hgenerated⟩ := exists_classBeingGenerated hunit
  have hending : c ∉ format.fileEnding.toList := by
    intro hmem
    rw [isIdentifierPart_of_mem_fileEnding hmem] at hc
    cases hc
  rw [← Naming.mem_classBeingGenerated_iff hgenerated hc, GeneratedClass.fileName,
    String.toList_append, String.toList_append, List.mem_append, or_iff_left hending,
    List.mem_append, or_iff_left (by simpa using hdot)]

/-- The file name of a unit is a plain step exactly if the prefix holds no slash. -/
theorem isPlain_fileName_iff (hunit : unit ∈ session.run.units) :
    Path.IsPlain (unit.fileName format) ↔
      '/' ∉ session.settings.naming.generatedPrefix.toList := by
  have hfileName : '/' ∈ (unit.fileName format).toList ↔
      '/' ∈ session.settings.naming.generatedPrefix.toList :=
    mem_fileName_iff hunit isIdentifierPart_slash (by decide)
  rw [← hfileName]
  refine ⟨Path.IsPlain.noSlash, fun hslash => ?_⟩
  -- The ending alone is longer than the steps that are not plain.
  have hending : format.fileEnding.length = 4 := by cases format <;> rfl
  have hlength : 4 ≤ (unit.fileName format).length := by
    rw [GeneratedClass.fileName, String.length_append, hending]
    omega
  refine ⟨?_, hslash, ?_, ?_⟩
  · intro heq
    exact absurd (heq ▸ hlength) (by decide)
  · intro heq
    exact absurd (heq ▸ hlength) (by decide)
  · intro heq
    exact absurd (heq ▸ hlength) (by decide)

/-- All steps of a unit are plain exactly if the prefix holds no slash. -/
theorem isPlain_pathSteps_iff (hunit : unit ∈ session.run.units) :
    (∀ step ∈ unit.pathSteps format, Path.IsPlain step) ↔
      '/' ∉ session.settings.naming.generatedPrefix.toList := by
  rw [GeneratedClass.pathSteps, List.forall_mem_append, List.forall_mem_singleton,
    isPlain_fileName_iff hunit, and_iff_right]
  intro segment hsegment
  exact isPlain_of_isIdentifier (isIdentifier_packageSegments hunit hsegment)

/-- The path of a unit leads along its steps from the output directory. -/
theorem outputPath_eq (hunit : unit ∈ session.run.units) :
    unit.outputPath directory format = (unit.pathSteps format).foldl Path.push directory := by
  have hpackages : (segments '.' unit.wrapper.name.package).filter (!·.isEmpty) =
      unit.wrapper.name.packageSegments := by
    have hidentifiers : ∀ segment ∈ unit.wrapper.name.packageSegments,
        isIdentifier segment = true := fun _ => isIdentifier_packageSegments hunit
    rw [QualifiedName.packageSegments] at hidentifiers ⊢
    split
    · next hempty =>
      rw [String.isEmpty_iff.1 hempty]
      rfl
    · next hempty =>
      rw [if_neg hempty] at hidentifiers
      rw [List.filter_eq_self]
      intro segment hsegment
      simpa using ne_empty_of_isIdentifier (hidentifiers segment hsegment)
  rw [GeneratedClass.outputPath, GeneratedClass.pathSteps, hpackages, List.foldl_append,
    List.foldl_cons, List.foldl_nil]

/-- A unit stays inside the output directory exactly if the prefix holds no slash. -/
theorem staysInside_iff (hunit : unit ∈ session.run.units) :
    unit.StaysInside directory format ↔
      '/' ∉ session.settings.naming.generatedPrefix.toList := by
  have hsteps : (∀ step ∈ unit.pathSteps format, Path.IsPlain step) ↔
      '/' ∉ session.settings.naming.generatedPrefix.toList := isPlain_pathSteps_iff hunit
  rw [GeneratedClass.StaysInside, ← hsteps, and_iff_right_iff_imp]
  intro hplain
  have hne : unit.pathSteps format ≠ [] := by simp [GeneratedClass.pathSteps]
  rw [outputPath_eq hunit, Path.foldl_push_eq_below hne hplain]

/-- The steps of a unit are on the way of another only if they are one unit. -/
theorem eq_of_pathSteps_onWay (hunit : unit ∈ session.run.units)
    (hother : other ∈ session.run.units)
    (h : unit.pathSteps format <+: other.pathSteps format) : unit = other := by
  obtain heq | hbefore := List.prefix_concat_iff.1 h
  · obtain ⟨hpackage, hfile⟩ := List.append_inj' heq rfl
    have hsimple : unit.wrapper.name.simpleName = other.wrapper.name.simpleName := by
      simpa [GeneratedClass.fileName] using hfile
    refine eq_of_claimed_eq hunit hother ?_
    rw [claimed, claimed, wrapper_name_eq hunit, wrapper_name_eq hother, hsimple,
      QualifiedName.packageSegments_inj.1 hpackage]
  · -- The name of a file holds a dot, and no segment of a package does.
    have hmem : unit.fileName format ∈ other.wrapper.name.packageSegments :=
      hbefore.subset (List.mem_append_right _ (.head _))
    have hdot : '.' ∈ (unit.fileName format).toList := by simp [GeneratedClass.fileName]
    exact absurd hdot
      (not_mem_of_isIdentifier (isIdentifier_packageSegments hother hmem) isIdentifierPart_dot)

end Session

end ValueShadow
