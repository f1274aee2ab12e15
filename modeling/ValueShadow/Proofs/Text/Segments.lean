import ValueShadow.Text.Segments
import Mathlib.Data.List.Infix

/-!
# Parts of a separated text

Where the parts of a separated text are empty (`splitAt_cons_self`, `nil_mem_splitAt_iff`), which
characters they hold (`forall_mem_splitAt_iff`), and how two texts are cut that a separator joins
(`splitAt_append`, `segments_append`).
-/

namespace ValueShadow.Text

variable {separator : Char}

/-- A separator ends an empty part. -/
theorem splitAt_cons_self (rest : List Char) :
    splitAt separator (separator :: rest) = [] :: splitAt separator rest :=
  splitAt_append_cons (List.not_mem_nil : separator ∉ []) rest

/-- Another character belongs to the first part. -/
theorem splitAt_cons_of_ne {c : Char} (h : c ≠ separator) (rest : List Char) :
    ∃ part parts, splitAt separator rest = part :: parts ∧
      splitAt separator (c :: rest) = (c :: part) :: parts := by
  obtain ⟨part, parts, hrest⟩ := List.exists_cons_of_ne_nil (splitAt_ne_nil separator rest)
  refine ⟨part, parts, hrest, ?_⟩
  simp [splitAt, hrest, h]

/-- The first part is empty exactly if nothing stands before the first separator. -/
theorem eq_nil_iff_of_splitAt {text part : List Char} {parts : List (List Char)}
    (h : splitAt separator text = part :: parts) :
    part = [] ↔ text = [] ∨ text.head? = some separator := by
  cases text with
  | nil =>
    cases h
    simp
  | cons c rest =>
    by_cases hc : c = separator
    · subst hc
      rw [splitAt_cons_self] at h
      cases h
      simp
    · obtain ⟨part', parts', -, hcons⟩ := splitAt_cons_of_ne hc rest
      cases hcons.symm.trans h
      simp [hc]

/-- A part after the first is empty exactly if a separator stands at the end or before another. -/
theorem nil_mem_tail_splitAt_iff {text : List Char} :
    [] ∈ (splitAt separator text).tail ↔
      text.getLast? = some separator ∨ [separator, separator] <:+: text := by
  induction text with
  | nil => simp [splitAt]
  | cons c rest ih =>
    -- The last character is `c` if the rest is empty, and the last one of the rest otherwise.
    have hlast : (c :: rest).getLast? = some separator ↔
        rest = [] ∧ c = separator ∨ rest.getLast? = some separator := by
      cases rest with
      | nil => simp
      | cons next others => simp [List.getLast?_cons_cons]
    have hpair : [separator, separator] <+: c :: rest ↔
        c = separator ∧ rest.head? = some separator := by
      cases rest with
      | nil => simp
      | cons next others => simp [List.cons_prefix_cons, eq_comm]
    rw [List.infix_cons_iff, hlast, hpair]
    by_cases hc : c = separator
    · subst hc
      obtain ⟨part, parts, hrest⟩ := List.exists_cons_of_ne_nil (splitAt_ne_nil c rest)
      rw [hrest, List.tail_cons] at ih
      rw [splitAt_cons_self, List.tail_cons, hrest, List.mem_cons, eq_comm,
        eq_nil_iff_of_splitAt hrest, ih]
      simp only [and_true, true_and]
      exact or_or_or_comm
    · obtain ⟨part, parts, hrest, hcons⟩ := splitAt_cons_of_ne hc rest
      rw [hrest, List.tail_cons] at ih
      rw [hcons, List.tail_cons, ih]
      simp only [hc, and_false, false_and, false_or]

/-- A part is empty exactly if the text is, or a separator stands at one of its ends or beside
another one. -/
theorem nil_mem_splitAt_iff {text : List Char} :
    [] ∈ splitAt separator text ↔
      text = [] ∨ text.head? = some separator ∨ text.getLast? = some separator ∨
        [separator, separator] <:+: text := by
  obtain ⟨part, parts, hparts⟩ := List.exists_cons_of_ne_nil (splitAt_ne_nil separator text)
  have htail : [] ∈ parts ↔ text.getLast? = some separator ∨ [separator, separator] <:+: text := by
    rw [← nil_mem_tail_splitAt_iff, hparts, List.tail_cons]
  rw [hparts, List.mem_cons, eq_comm, eq_nil_iff_of_splitAt hparts, htail, or_assoc]

/-- The characters of the parts are those of the text other than the separator. -/
theorem forall_mem_splitAt_iff {p : Char → Prop} {text : List Char} :
    (∀ part ∈ splitAt separator text, ∀ c ∈ part, p c) ↔ ∀ c ∈ text, c ≠ separator → p c := by
  induction text with
  | nil => simp [splitAt]
  | cons c rest ih =>
    by_cases hc : c = separator
    · subst hc
      rw [splitAt_cons_self]
      simp [ih]
    · obtain ⟨part, parts, hrest, hcons⟩ := splitAt_cons_of_ne hc rest
      rw [hrest] at ih
      rw [hcons]
      simp only [List.forall_mem_cons, hc, ne_eq, not_false_eq_true, forall_true_left] at ih ⊢
      rw [← ih, and_assoc]

/-- A separator between two lists separates their parts. -/
theorem splitAt_append (first second : List Char) :
    splitAt separator (first ++ separator :: second) =
      splitAt separator first ++ splitAt separator second := by
  induction first with
  | nil => exact splitAt_cons_self second
  | cons c rest ih =>
    by_cases hc : c = separator
    · subst hc
      rw [List.cons_append, splitAt_cons_self, splitAt_cons_self, ih, List.cons_append]
    · obtain ⟨part, parts, hrest, hcons⟩ := splitAt_cons_of_ne hc rest
      rw [hrest] at ih
      simp [splitAt, ih, hrest, hc]

/-- The characters of the segments are those of the text other than the separator. -/
theorem forall_mem_segments_iff {p : Char → Prop} {text : String} :
    (∀ segment ∈ segments separator text, ∀ c ∈ segment.toList, p c) ↔
      ∀ c ∈ text.toList, c ≠ separator → p c := by
  rw [← forall_mem_splitAt_iff, segments]
  simp

/-- No separator is in a segment. -/
theorem separator_not_mem_segment {text segment : String} (h : segment ∈ segments separator text) :
    separator ∉ segment.toList := by
  have hchars : ∀ segment ∈ segments separator text, ∀ c ∈ segment.toList, c ≠ separator :=
    forall_mem_segments_iff.2 fun _ _ h => h
  exact fun hmem => hchars segment h separator hmem rfl

/-- A separator between two texts separates their segments. -/
theorem segments_append (first second : String) :
    segments separator (first ++ String.singleton separator ++ second) =
      segments separator first ++ segments separator second := by
  simp [segments, splitAt_append]

/-- The segments of two lists are written with a separator between them. -/
theorem joined_append {before after : List String} (hbefore : before ≠ []) (hafter : after ≠ []) :
    joined separator (before ++ after) =
      joined separator before ++ String.singleton separator ++ joined separator after :=
  String.intercalate_append_of_ne_nil hbefore hafter

/-- A character of the written segments is a separator or is from one of them. -/
theorem mem_of_mem_joined {c : Char} {parts : List String}
    (h : c ∈ (joined separator parts).toList) :
    c = separator ∨ ∃ part ∈ parts, c ∈ part.toList := by
  induction parts with
  | nil => simp [joined] at h
  | cons first others ih =>
    cases others with
    | nil =>
      refine .inr ⟨first, .head _, ?_⟩
      simpa [joined] using h
    | cons next others =>
      rw [joined, String.intercalate_cons_cons, ← joined] at h
      simp only [String.toList_append, List.mem_append, String.toList_singleton,
        List.mem_singleton] at h
      obtain (hfirst | hseparator) | hothers := h
      · exact .inr ⟨first, .head _, hfirst⟩
      · exact .inl hseparator
      · obtain hseparator | ⟨part, hpart, hc⟩ := ih hothers
        · exact .inl hseparator
        · exact .inr ⟨part, .tail _ hpart, hc⟩

/-- Nothing is written of some segments only if there are none, unless they are empty. -/
theorem joined_eq_empty_iff {parts : List String} (hne : ∀ part ∈ parts, part ≠ "") :
    joined separator parts = "" ↔ parts = [] := by
  cases parts with
  | nil => simp [joined]
  | cons first others =>
    have hfirst := hne first (.head _)
    cases others with
    | nil => simp [joined, hfirst]
    | cons next others => simp [joined]

end ValueShadow.Text
