import ValueShadow.OrderedSet
import Mathlib.Data.List.Basic

/-!
# Ascending lists as sets

`OrderedSet.ofList` is the only ascending list with the members of the given one
(`mem_ofList`, `ascending_ofList`, `Ascending.eq_of_mem_iff`), so it depends neither on the order
nor on repeats (`ofList_congr`). The first member that satisfies a condition is the least one
(`Ascending.find?_eq_some_iff`).
-/

namespace ValueShadow.OrderedSet

open Std

variable {α : Type} [Ord α]

/-- Each member is less than those behind it. -/
def Ascending (set : List α) : Prop :=
  set.Pairwise fun a b => compare a b = .lt

section
variable [LawfulEqOrd α] {item a : α} {set : List α}

@[simp]
theorem mem_insert : a ∈ insert item set ↔ a = item ∨ a ∈ set := by
  induction set with
  | nil => simp [insert]
  | cons first rest ih =>
    rw [insert]
    cases horder : compare item first with
    | lt => simp
    | eq => simp [LawfulEqOrd.eq_of_compare horder]
    | gt => simp [ih, or_left_comm]

@[simp]
theorem mem_ofList {items : List α} : a ∈ ofList items ↔ a ∈ items := by
  -- The items that are still to be inserted and those that are in the set already.
  have hfold : ∀ set : List α,
      a ∈ items.foldl (fun set item => insert item set) set ↔ a ∈ items ∨ a ∈ set := by
    induction items with
    | nil => simp
    | cons first rest ih =>
      intro set
      rw [List.foldl_cons, ih, mem_insert, List.mem_cons, or_assoc, or_left_comm]
  rw [ofList, hfold, or_iff_left List.not_mem_nil]

end

section
variable [TransOrd α] [LawfulEqOrd α] {set : List α}

/-- A member is put in front of the greater ones. -/
theorem Ascending.insert (h : Ascending set) (item : α) : Ascending (insert item set) := by
  induction set with
  | nil => exact List.pairwise_singleton _ _
  | cons first rest ih =>
    obtain ⟨hfirst, hrest⟩ := List.pairwise_cons.1 h
    rw [OrderedSet.insert]
    cases horder : compare item first with
    | lt =>
      refine List.pairwise_cons.2 ⟨fun b hb => ?_, h⟩
      rcases List.mem_cons.1 hb with rfl | hb
      · exact horder
      · exact TransCmp.lt_trans horder (hfirst b hb)
    | eq => exact h
    | gt =>
      refine List.pairwise_cons.2 ⟨fun b hb => ?_, ih hrest⟩
      rcases mem_insert.1 hb with rfl | hb
      · exact OrientedCmp.gt_iff_lt.1 horder
      · exact hfirst b hb

theorem ascending_ofList (items : List α) : Ascending (ofList items) := by
  have hfold : ∀ set : List α, Ascending set →
      Ascending (items.foldl (fun set item => OrderedSet.insert item set) set) := by
    induction items with
    | nil => exact fun _ h => h
    | cons first rest ih => exact fun set h => ih _ (h.insert first)
  exact hfold [] .nil

/-- Two ascending lists are equal if they have the same members. -/
theorem Ascending.eq_of_mem_iff {other : List α} (h : Ascending set) (hother : Ascending other)
    (hmem : ∀ a, a ∈ set ↔ a ∈ other) : set = other := by
  have hnodup : ∀ {items : List α}, Ascending items → items.Nodup := by
    intro items hitems
    refine hitems.imp fun {a b} hab => ?_
    rintro rfl
    cases hab.symm.trans ReflCmp.compare_self
  have hperm := (List.perm_ext_iff_of_nodup (hnodup h) (hnodup hother)).2 hmem
  refine hperm.eq_of_pairwise (fun a b _ _ hab hba => ?_) h hother
  exact absurd hba (OrientedCmp.not_lt_of_lt hab)

/-- The set of some items depends only on which items there are. -/
theorem ofList_congr {items others : List α} (h : ∀ a, a ∈ items ↔ a ∈ others) :
    ofList items = ofList others := by
  refine (ascending_ofList items).eq_of_mem_iff (ascending_ofList others) fun a => ?_
  rw [mem_ofList, mem_ofList, h]

/-- The first member that satisfies a condition is the least one that does. -/
theorem Ascending.find?_eq_some_iff (h : Ascending set) {p : α → Bool} {a : α} :
    set.find? p = some a ↔
      (a ∈ set ∧ p a = true) ∧ ∀ b, b ∈ set ∧ p b = true → (compare a b).isLE = true := by
  induction set with
  | nil => simp
  | cons first rest ih =>
    obtain ⟨hfirst, hrest⟩ := List.pairwise_cons.1 h
    by_cases hp : p first = true
    · rw [List.find?_cons_of_pos hp, Option.some_inj]
      constructor
      · rintro rfl
        refine ⟨⟨.head _, hp⟩, fun b ⟨hb, _⟩ => ?_⟩
        rcases List.mem_cons.1 hb with rfl | hb
        · simp
        · simp [hfirst b hb]
      · rintro ⟨⟨hmem, -⟩, hleast⟩
        rcases List.mem_cons.1 hmem with rfl | hmem
        · rfl
        · have hle := hleast first ⟨.head _, hp⟩
          rw [OrientedCmp.gt_iff_lt.2 (hfirst a hmem)] at hle
          cases hle
    · rw [List.find?_cons_of_neg hp, ih hrest]
      have hne : ∀ b, b ∈ first :: rest ∧ p b = true ↔ b ∈ rest ∧ p b = true := by
        intro b
        refine and_congr_left fun hb => ?_
        rw [List.mem_cons, or_iff_right]
        rintro rfl
        exact hp hb
      simp only [hne]

end

end ValueShadow.OrderedSet
