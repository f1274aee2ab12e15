/-!
# Character classes as ranges

A class of characters is stored as an ascending list of closed ranges of code points. Membership
stops at the first range that starts above the code point; `inRanges_iff` says that on an ascending
list this is membership in one of the ranges.
-/

namespace ValueShadow.Text

/-- Whether `n` lies in one of the closed ranges of an ascending list. -/
def inRanges (n : Nat) : List (Nat × Nat) → Bool
  | [] => false
  | (low, high) :: rest => decide (low ≤ n) && (decide (n ≤ high) || inRanges n rest)

/-- Every range starts above the ones before it. -/
def Ascending : List (Nat × Nat) → Prop
  | [] => True
  | range :: rest => (∀ later ∈ rest, range.1 ≤ later.1) ∧ Ascending rest

/-- On an ascending list the early stop loses no range. -/
theorem inRanges_iff {n : Nat} {ranges : List (Nat × Nat)} (ascending : Ascending ranges) :
    inRanges n ranges = true ↔ ∃ range ∈ ranges, range.1 ≤ n ∧ n ≤ range.2 := by
  induction ranges with
  | nil => simp [inRanges]
  | cons range rest ih =>
    obtain ⟨first, others⟩ := ascending
    simp only [inRanges, Bool.and_eq_true, decide_eq_true_eq, Bool.or_eq_true, ih others,
      List.mem_cons, exists_eq_or_imp]
    constructor
    · rintro ⟨low, high | ⟨later, mem, between⟩⟩
      · exact .inl ⟨low, high⟩
      · exact .inr ⟨later, mem, between⟩
    · rintro (between | ⟨later, mem, between⟩)
      · exact ⟨between.1, .inl between.2⟩
      · exact ⟨Nat.le_trans (first later mem) between.1, .inr ⟨later, mem, between⟩⟩

end ValueShadow.Text
