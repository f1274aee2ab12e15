import Mathlib.Data.List.Basic
import Mathlib.Data.List.Induction

/-!
# What comes first in a list

`FirstFailing` is the first item that is not good: every item is good or there is one
(`forall_or_exists_firstFailing`), and a search finds it (`find?_not_eq_some`). A list without its
repeats has its items in the order of their first occurrences (`pairwise_idxOf_eraseDups`).
-/

namespace ValueShadow

section
variable {α β : Type}

/-- The item is the first one of the list that is not good. -/
def FirstFailing (good : α → Prop) (items : List α) (item : α) : Prop :=
  ∃ before after, items = before ++ item :: after ∧ (∀ earlier ∈ before, good earlier) ∧ ¬ good item

theorem FirstFailing.mem {good : α → Prop} {items : List α} {item : α}
    (h : FirstFailing good items item) : item ∈ items := by
  obtain ⟨before, after, rfl, -⟩ := h
  simp

theorem FirstFailing.not_good {good : α → Prop} {items : List α} {item : α}
    (h : FirstFailing good items item) : ¬ good item := by
  obtain ⟨_, _, -, -, hbad⟩ := h
  exact hbad

/-- No item is the first one of an empty list. -/
theorem not_firstFailing_nil {good : α → Prop} {item : α} : ¬ FirstFailing good [] item := by
  rintro ⟨before, after, hitems, -⟩
  cases before <;> cases hitems

/-- The first item that is not good is the head, or the head is good and the item is the first one
of the tail. -/
theorem firstFailing_cons {good : α → Prop} {head item : α} {tail : List α} :
    FirstFailing good (head :: tail) item ↔
      head = item ∧ ¬ good item ∨ good head ∧ FirstFailing good tail item := by
  constructor
  · rintro ⟨before, after, hitems, hbefore, hbad⟩
    rcases List.cons_eq_append_iff.1 hitems with ⟨rfl, hcons⟩ | ⟨before, rfl, rfl⟩
    · cases hcons
      exact .inl ⟨rfl, hbad⟩
    · obtain ⟨hhead, hbefore⟩ := List.forall_mem_cons.1 hbefore
      exact .inr ⟨hhead, before, after, rfl, hbefore, hbad⟩
  · rintro (⟨rfl, hbad⟩ | ⟨hhead, before, after, rfl, hbefore, hbad⟩)
    · exact ⟨[], tail, rfl, by simp, hbad⟩
    · exact ⟨head :: before, after, rfl, List.forall_mem_cons.2 ⟨hhead, hbefore⟩, hbad⟩

/-- A good head is passed over. -/
theorem firstFailing_cons_of_good {good : α → Prop} {head item : α} {tail : List α}
    (h : good head) : FirstFailing good (head :: tail) item ↔ FirstFailing good tail item := by
  rw [firstFailing_cons]
  refine ⟨fun hitem => ?_, fun hitem => .inr ⟨h, hitem⟩⟩
  rcases hitem with ⟨rfl, hbad⟩ | ⟨-, hitem⟩
  · exact absurd h hbad
  · exact hitem

/-- A head that is not good is the first one. -/
theorem firstFailing_cons_of_not_good {good : α → Prop} {head item : α} {tail : List α}
    (h : ¬ good head) : FirstFailing good (head :: tail) item ↔ head = item := by
  rw [firstFailing_cons]
  refine ⟨fun hitem => ?_, ?_⟩
  · rcases hitem with ⟨hitem, -⟩ | ⟨hgood, -⟩
    · exact hitem
    · exact absurd hgood h
  · rintro rfl
    exact .inl ⟨rfl, h⟩

/-- Either all items are good, or there is a first one that is not. -/
theorem forall_or_exists_firstFailing (good : α → Prop) (items : List α) :
    (∀ item ∈ items, good item) ∨ ∃ item, FirstFailing good items item := by
  induction items with
  | nil => exact .inl (by simp)
  | cons head tail ih =>
    by_cases hhead : good head
    · rcases ih with hall | ⟨item, hitem⟩
      · exact .inl (List.forall_mem_cons.2 ⟨hhead, hall⟩)
      · exact .inr ⟨item, firstFailing_cons.2 (.inr ⟨hhead, hitem⟩)⟩
    · exact .inr ⟨head, firstFailing_cons.2 (.inl ⟨rfl, hhead⟩)⟩

/-- Only what is good among the items matters. -/
theorem firstFailing_congr {good good' : α → Prop} {items : List α} {item : α}
    (h : ∀ item ∈ items, good item ↔ good' item) :
    FirstFailing good items item ↔ FirstFailing good' items item := by
  induction items with
  | nil => exact iff_of_false not_firstFailing_nil not_firstFailing_nil
  | cons head tail ih =>
    obtain ⟨hhead, htail⟩ := List.forall_mem_cons.1 h
    rw [firstFailing_cons, firstFailing_cons, hhead, ih htail]
    refine or_congr_left (and_congr_right ?_)
    rintro rfl
    rw [hhead]

/-- The first image that is not good is the image of the first item whose image is not. -/
theorem firstFailing_map {f : α → β} {good : β → Prop} {items : List α} {image : β} :
    FirstFailing good (items.map f) image ↔
      ∃ item, FirstFailing (good ∘ f) items item ∧ f item = image := by
  induction items with
  | nil => simp [not_firstFailing_nil]
  | cons head tail ih =>
    simp only [List.map_cons, firstFailing_cons, ih]
    constructor
    · rintro (⟨rfl, hbad⟩ | ⟨hhead, item, hitem, rfl⟩)
      · exact ⟨head, .inl ⟨rfl, hbad⟩, rfl⟩
      · exact ⟨item, .inr ⟨hhead, hitem⟩, rfl⟩
    · rintro ⟨item, ⟨rfl, hbad⟩ | ⟨hhead, hitem⟩, rfl⟩
      · exact .inl ⟨rfl, hbad⟩
      · exact .inr ⟨hhead, item, hitem, rfl⟩

/-- A search for an item without the property finds the first one without it. -/
theorem find?_not_eq_some {p : α → Bool} {items : List α} {item : α} :
    items.find? (!p ·) = some item ↔ FirstFailing (p · = true) items item := by
  rw [List.find?_eq_some_iff_append, FirstFailing]
  constructor
  · rintro ⟨hbad, before, after, hitems, hbefore⟩
    refine ⟨before, after, hitems, fun earlier hearlier => ?_, by simpa using hbad⟩
    simpa using hbefore earlier hearlier
  · rintro ⟨before, after, hitems, hbefore, hbad⟩
    refine ⟨by simpa using hbad, before, after, hitems, fun earlier hearlier => ?_⟩
    simpa using hbefore earlier hearlier

end

/-! ## First occurrences -/

section
variable {α : Type} [BEq α] [LawfulBEq α]

/-- Taking a fresh item adds it at the end. -/
theorem eraseDups_append_singleton {items : List α} {item : α} (h : item ∉ items) :
    (items ++ [item]).eraseDups = items.eraseDups ++ [item] := by
  rw [List.eraseDups_append]
  simp [List.removeAll, h, List.eraseDups_cons]

/-- Taking an item again adds nothing. -/
theorem eraseDups_append_of_mem {items : List α} {item : α} (h : item ∈ items) :
    (items ++ [item]).eraseDups = items.eraseDups := by
  rw [List.eraseDups_append]
  simp [List.removeAll, h]

/-- Items that are distinct have no repeats to leave out. -/
theorem eraseDups_eq_self {items : List α} (h : items.Nodup) : items.eraseDups = items := by
  induction items using List.reverseRecOn with
  | nil => rfl
  | append_singleton items last ih =>
    obtain ⟨hitems, -, hlast⟩ := List.nodup_append.1 h
    have hfresh : last ∉ items := fun hmem => hlast last hmem last (.head _) rfl
    rw [eraseDups_append_singleton hfresh, ih hitems]

/-- The items without their repeats are in the order of their first occurrences. -/
theorem pairwise_idxOf_eraseDups (items : List α) :
    items.eraseDups.Pairwise fun item other => items.idxOf item < items.idxOf other := by
  -- The list grows at its end, where the places of the items before it stay.
  induction items using List.reverseRecOn with
  | nil => exact List.Pairwise.nil
  | append_singleton items last ih =>
    have hold : ∀ item ∈ items.eraseDups, (items ++ [last]).idxOf item = items.idxOf item :=
      fun item hitem => List.idxOf_append_of_mem (List.mem_eraseDups.1 hitem)
    have hpairs : items.eraseDups.Pairwise fun item other =>
        (items ++ [last]).idxOf item < (items ++ [last]).idxOf other := by
      refine ih.imp_of_mem fun hitem hother hlt => ?_
      rwa [hold _ hitem, hold _ hother]
    by_cases hlast : last ∈ items
    · rwa [eraseDups_append_of_mem hlast]
    · rw [eraseDups_append_singleton hlast, List.pairwise_append]
      refine ⟨hpairs, List.pairwise_singleton _ _, fun item hitem other hother => ?_⟩
      obtain rfl := List.mem_singleton.1 hother
      rw [hold item hitem, List.idxOf_append_of_notMem hlast]
      have hbefore := List.idxOf_lt_length_of_mem (List.mem_eraseDups.1 hitem)
      omega

/-- Nothing is left twice. -/
theorem nodup_eraseDups (items : List α) : items.eraseDups.Nodup := by
  refine (pairwise_idxOf_eraseDups items).imp fun hlt => ?_
  rintro rfl
  exact Nat.lt_irrefl _ hlt

end

end ValueShadow
