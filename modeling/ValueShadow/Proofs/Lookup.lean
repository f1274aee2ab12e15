import Mathlib.Data.List.Nodup

/-!
# Lists of pairs as finite maps

In a list of pairs with distinct keys, a key is looked up to a value exactly if the list holds that
pair (`lookup_eq_some_iff_mem`), so the order of the pairs does not matter. Pairs that are set one
after the other (`setPair`) are all found afterwards (`lookup_foldl_setPair`).
-/

namespace ValueShadow

section
variable {κ β : Type} [DecidableEq κ]

/-- A value that a lookup finds is in the list with its key. -/
theorem mem_of_lookup_eq_some {pairs : List (κ × β)} {key : κ} {value : β}
    (h : pairs.lookup key = some value) : (key, value) ∈ pairs := by
  obtain ⟨before, after, rfl, -⟩ := List.lookup_eq_some_iff.1 h
  simp

/-- Where the keys are distinct, the pairs of the list are what its lookups find. -/
theorem lookup_eq_some_iff_mem {pairs : List (κ × β)} (distinct : (pairs.map Prod.fst).Nodup)
    {key : κ} {value : β} : pairs.lookup key = some value ↔ (key, value) ∈ pairs := by
  refine ⟨mem_of_lookup_eq_some, fun hmem => ?_⟩
  obtain ⟨before, after, rfl⟩ := List.append_of_mem hmem
  refine List.lookup_eq_some_iff.2 ⟨before, after, rfl, fun pair hpair => ?_⟩
  rw [List.map_append, List.map_cons, List.nodup_append] at distinct
  have hne := distinct.2.2 pair.1 (List.mem_map_of_mem hpair) key (.head _)
  simpa using hne.symm

/-- The pairs with this one in the place of the first of its key, or at the end if there is none. -/
def setPair : List (κ × β) → κ × β → List (κ × β)
  | [], pair => [pair]
  | other :: pairs, pair =>
    if other.1 = pair.1 then pair :: pairs else other :: setPair pairs pair

/-- A lookup looks at the first pair first. -/
theorem lookup_cons_pair [BEq κ] [LawfulBEq κ] (first : κ × β) (pairs : List (κ × β)) (key : κ) :
    (first :: pairs).lookup key = if key = first.1 then some first.2 else pairs.lookup key := by
  obtain ⟨firstKey, value⟩ := first
  by_cases h : key = firstKey
  · simp [h]
  · simp [List.lookup_cons, h, beq_eq_false_iff_ne.2 h]

/-- Where every item has a key and a value, a lookup finds the value of the first item of the
key. -/
theorem lookup_map {α : Type} (items : List α) (itemKey : α → κ) (value : α → β) (key : κ) :
    (items.map fun item => (itemKey item, value item)).lookup key =
      (items.find? fun item => itemKey item = key).map value := by
  induction items with
  | nil => rfl
  | cons item items ih =>
    rw [List.map_cons, lookup_cons_pair, List.find?_cons, ih]
    by_cases h : itemKey item = key
    · simp [h]
    · simp [h, Ne.symm h]

/-- A pair that is set is found, and what is found for the other keys stays. -/
theorem lookup_setPair (pairs : List (κ × β)) (pair : κ × β) (key : κ) :
    (setPair pairs pair).lookup key = if key = pair.1 then some pair.2 else pairs.lookup key := by
  induction pairs with
  | nil => rw [setPair, lookup_cons_pair]
  | cons other pairs ih =>
    by_cases hother : other.1 = pair.1
    · rw [setPair, if_pos hother, lookup_cons_pair, lookup_cons_pair, hother]
      split <;> rfl
    · rw [setPair, if_neg hother, lookup_cons_pair, lookup_cons_pair, ih]
      by_cases hkey : key = pair.1
      · rw [hkey, if_neg (Ne.symm hother), if_pos rfl, if_pos rfl]
      · rw [if_neg hkey, if_neg hkey]

/-- Keys that are not set keep what is found for them. -/
theorem lookup_foldl_setPair_of_not_mem {pairs set : List (κ × β)} {key : κ}
    (h : key ∉ set.map Prod.fst) : (set.foldl setPair pairs).lookup key = pairs.lookup key := by
  induction set generalizing pairs with
  | nil => rfl
  | cons pair set ih =>
    rw [List.map_cons, List.mem_cons, not_or] at h
    rw [List.foldl_cons, ih h.2, lookup_setPair, if_neg h.1]

/-- All pairs of distinct keys that are set one after the other are found. -/
theorem lookup_foldl_setPair {pairs set : List (κ × β)} (distinct : (set.map Prod.fst).Nodup)
    {pair : κ × β} (hmem : pair ∈ set) :
    (set.foldl setPair pairs).lookup pair.1 = some pair.2 := by
  induction set generalizing pairs with
  | nil => cases hmem
  | cons first set ih =>
    rw [List.map_cons, List.nodup_cons] at distinct
    rw [List.foldl_cons]
    rcases List.mem_cons.1 hmem with rfl | hmem
    · rw [lookup_foldl_setPair_of_not_mem distinct.1, lookup_setPair, if_pos rfl]
    · exact ih distinct.2 hmem

end

end ValueShadow
