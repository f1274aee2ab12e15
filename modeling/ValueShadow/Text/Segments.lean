/-!
# Segments of a separated text

A dotted name is a list of segments written with a separator between them. `segments` cuts a text
at every separator and `joined` writes it again. `joined_segments` says that cutting loses nothing,
`segments_joined` that segments without the separator are read back as they were.
-/

namespace ValueShadow.Text

/-- The parts of a list between the occurrences of `separator`, at least one. -/
def splitAt (separator : Char) : List Char → List (List Char)
  | [] => [[]]
  | c :: rest =>
    match splitAt separator rest with
    | [] => [[c]]
    | part :: parts => if c = separator then [] :: part :: parts else (c :: part) :: parts

/-- The parts of a text between the occurrences of `separator`, at least one. -/
def segments (separator : Char) (text : String) : List String :=
  (splitAt separator text.toList).map String.ofList

/-- The parts written one after the other with `separator` between them. -/
def joined (separator : Char) (parts : List String) : String :=
  (String.singleton separator).intercalate parts

theorem splitAt_ne_nil (separator : Char) (text : List Char) : splitAt separator text ≠ [] := by
  cases text with
  | nil => simp [splitAt]
  | cons c rest =>
    simp only [splitAt]
    split
    · simp
    · split <;> simp

theorem segments_ne_nil (separator : Char) (text : String) : segments separator text ≠ [] := by
  simp [segments, splitAt_ne_nil]

/-- Cutting a list and writing the parts with the separator between them gives the list back. -/
theorem intercalate_splitAt (separator : Char) (text : List Char) :
    [separator].intercalate (splitAt separator text) = text := by
  induction text with
  | nil => rfl
  | cons c rest ih =>
    simp only [splitAt]
    split
    next empty => exact absurd empty (splitAt_ne_nil separator rest)
    next part parts split_rest =>
      rw [split_rest] at ih
      by_cases hc : c = separator
      · subst hc
        simp [List.intercalate_cons_cons, ih]
      · cases parts with
        | nil => simp_all [List.intercalate]
        | cons next others => simp_all [List.intercalate_cons_cons]

/-- Cutting a text and writing the segments again gives the text back. -/
theorem joined_segments (separator : Char) (text : String) :
    joined separator (segments separator text) = text := by
  apply String.toList_inj.1
  rw [joined, segments, String.toList_intercalate, List.map_map, String.toList_comp_ofList,
    List.map_id, String.toList_singleton, intercalate_splitAt]

/-- A list without the separator is its own single part. -/
theorem splitAt_of_not_mem {separator : Char} {part : List Char} (free : separator ∉ part) :
    splitAt separator part = [part] := by
  induction part with
  | nil => rfl
  | cons c rest ih =>
    obtain ⟨hc, hrest⟩ := not_or.1 (mt List.mem_cons.2 free)
    simp [splitAt, ih hrest, Ne.symm hc]

/-- The first part ends at the first separator. -/
theorem splitAt_append_cons {separator : Char} {part : List Char} (free : separator ∉ part)
    (rest : List Char) :
    splitAt separator (part ++ separator :: rest) = part :: splitAt separator rest := by
  induction part with
  | nil =>
    simp only [List.nil_append, splitAt]
    split
    next empty => exact absurd empty (splitAt_ne_nil separator rest)
    next part parts split_rest => simp [split_rest]
  | cons c part ih =>
    obtain ⟨hc, hpart⟩ := not_or.1 (mt List.mem_cons.2 free)
    simp [splitAt, ih hpart, Ne.symm hc]

/-- Parts without the separator are read back from the list that writes it between them. -/
theorem splitAt_intercalate {separator : Char} {parts : List (List Char)} (nonempty : parts ≠ [])
    (free : ∀ part ∈ parts, separator ∉ part) :
    splitAt separator ([separator].intercalate parts) = parts := by
  induction parts with
  | nil => exact absurd rfl nonempty
  | cons part parts ih =>
    cases parts with
    | nil => simpa [List.intercalate] using splitAt_of_not_mem (free part (by simp))
    | cons next others =>
      rw [List.intercalate_cons_cons, List.append_assoc, List.singleton_append,
        splitAt_append_cons (free part (by simp)),
        ih (by simp) fun p mem => free p (List.mem_cons_of_mem _ mem)]

/-- Segments without the separator are read back from the text that joins them. -/
theorem segments_joined {separator : Char} {parts : List String} (nonempty : parts ≠ [])
    (free : ∀ part ∈ parts, separator ∉ part.toList) :
    segments separator (joined separator parts) = parts := by
  rw [segments, joined, String.toList_intercalate, String.toList_singleton,
    splitAt_intercalate (by simpa using nonempty) (by simpa using free), List.map_map,
    String.ofList_comp_toList, List.map_id]

end ValueShadow.Text
