import ValueShadow.Proofs.Naming.Stages

/-!
# Leading markers in bytes

The markers that a text starts with take up as many times the width of the marker as there are
markers (`markersEnd`), so they end between two characters, and what is behind them is the text
without leading markers (`copy_sliceFrom_markersEnd`). A text that is as long in bytes without its
leading markers has none (`utf8ByteSize_stripMarkers_eq_iff`), so `Naming.canonical` changes a name
exactly if the number of bytes changes (`Naming.canonical_eq_ite`).
-/

namespace ValueShadow

/-- Where the markers end that the text starts with, in bytes. -/
def markersEnd (marker : Char) (text : String) : String.Pos.Raw :=
  ⟨markerCount marker text * marker.utf8Size⟩

section
variable (marker : Char) (text : String)

/-- So many markers take up so many times the bytes of one. -/
theorem utf8ByteSize_replicate (count : Nat) :
    (String.ofList (List.replicate count marker)).utf8ByteSize = count * marker.utf8Size := by
  induction count with
  | zero => simp
  | succ count ih =>
    rw [List.replicate_succ', String.ofList_append, String.utf8ByteSize_append, ih,
      ← String.singleton_eq_ofList, String.utf8ByteSize_singleton, Nat.succ_mul]

/-- The leading markers end between two characters, with the rest of the text behind them. -/
theorem copy_sliceFrom_markersEnd :
    ∃ hcut : (markersEnd marker text).IsValid text,
      (text.sliceFrom ⟨markersEnd marker text, hcut⟩).copy = stripMarkers marker text := by
  have htext : text = String.ofList (List.replicate (markerCount marker text) marker) ++
      stripMarkers marker text := eq_behindMarkers_stripMarkers marker text
  have hend : markersEnd marker text =
      (String.ofList (List.replicate (markerCount marker text) marker)).rawEndPos := by
    rw [markersEnd, ← utf8ByteSize_replicate]
    rfl
  refine ⟨String.Pos.Raw.isValid_iff_exists_append.2 ⟨_, _, htext, hend⟩, ?_⟩
  exact String.copy_sliceFrom_eq_iff_exists_splits.2 ⟨_, htext, hend⟩

/-- The text has as many bytes without its leading markers exactly if it has none. -/
theorem utf8ByteSize_stripMarkers_eq_iff :
    (stripMarkers marker text).utf8ByteSize = text.utf8ByteSize ↔
      stripMarkers marker text = text := by
  refine ⟨fun hsize => ?_, fun h => by rw [h]⟩
  have htext := eq_behindMarkers_stripMarkers marker text
  have hbytes := congrArg String.utf8ByteSize htext
  rw [behindMarkers, String.utf8ByteSize_append, utf8ByteSize_replicate, hsize] at hbytes
  -- The markers take up no bytes, and each of them would take up at least one.
  have hnone : markerCount marker text = 0 := by
    have hwidth := marker.utf8Size_pos
    have hzero : markerCount marker text * marker.utf8Size = 0 := by omega
    exact (Nat.mul_eq_zero.1 hzero).resolve_right (Nat.ne_of_gt hwidth)
  rw [hnone] at htext
  simpa [behindMarkers] using htext.symm

end

/-! ## Canonical names -/

namespace Naming

variable (naming : Naming) (name : QualifiedName)

/-- Only a simple name that gets shorter is replaced. -/
theorem canonical_eq_ite :
    naming.canonical name =
      if (stripMarkers naming.chainMarker name.simpleName).utf8ByteSize =
          name.simpleName.utf8ByteSize then
        name
      else
        name.withSimpleName (stripMarkers naming.chainMarker name.simpleName) := by
  split
  · next h =>
    rw [utf8ByteSize_stripMarkers_eq_iff] at h
    rw [canonical, h, QualifiedName.withSimpleName_simpleName]
  · rfl

end Naming

/-- The leading markers of a text end between two characters, at their number times the bytes of the
marker, and what is behind them is the text without leading markers. It is the one text that does
not start with the marker and has the whole text behind some number of markers, and stripping it
again changes nothing. The canonical name of a class differs at most in the innermost simple name,
which is stripped in this way. It is found by comparing numbers of bytes, it is its own canonical
name, and it is the name itself exactly if the innermost simple name does not start with the
marker. -/
theorem markers_stripped_exactly (marker : Char) (text : String) (naming : Naming)
    (name : QualifiedName) :
    ((∃ hcut : (markersEnd marker text).IsValid text,
        (text.sliceFrom ⟨markersEnd marker text, hcut⟩).copy = stripMarkers marker text) ∧
      (∀ rest, stripMarkers marker text = rest ↔
        rest.toList.head? ≠ some marker ∧ ∃ count, text = behindMarkers marker count rest) ∧
      stripMarkers marker (stripMarkers marker text) = stripMarkers marker text) ∧
    (naming.canonical name).package = name.package ∧
    (naming.canonical name).simpleNames =
      name.simpleNames.dropLast ++ [stripMarkers naming.chainMarker name.simpleName] ∧
    (naming.canonical name =
      if (stripMarkers naming.chainMarker name.simpleName).utf8ByteSize =
          name.simpleName.utf8ByteSize then
        name
      else
        name.withSimpleName (stripMarkers naming.chainMarker name.simpleName)) ∧
    naming.canonical (naming.canonical name) = naming.canonical name ∧
    (naming.canonical name = name ↔
      name.simpleName.toList.head? ≠ some naming.chainMarker) :=
  ⟨⟨copy_sliceFrom_markersEnd marker text, fun _ => stripMarkers_eq_iff,
      stripMarkers_stripMarkers marker text⟩,
    rfl, rfl, naming.canonical_eq_ite name, naming.canonical_canonical name,
    naming.canonical_eq_self_iff name⟩

end ValueShadow
