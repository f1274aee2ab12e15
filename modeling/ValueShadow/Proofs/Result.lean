import ValueShadow.Error
import ValueShadow.Proofs.First
import Mathlib.Data.List.Forall2

/-!
# Computations that may fail

What a computation that succeeded went through: a sequence of two steps succeeded in both
(`bind_eq_ok`), and a list of steps succeeded in each of them, in order (`mapM_eq_ok`,
`mapM_eq_some`, `mapM_attach_eq_some`). A list of steps fails in the first one that fails
(`mapM_eq_error`).
-/

namespace ValueShadow

universe u v w

section
variable {ε : Type u} {α : Type v} {β : Type v}

/-- Two steps succeed together exactly if the first succeeds and the second does with its value. -/
theorem bind_eq_ok {first : Except ε α} {next : α → Except ε β} {result : β} :
    (first >>= next) = .ok result ↔ ∃ value, first = .ok value ∧ next value = .ok result := by
  cases first with
  | error e => simp [bind, Except.bind]
  | ok value => simp [bind, Except.bind]

/-- Two steps fail together exactly if the first fails, or it succeeds and the second fails with its
value. -/
theorem bind_eq_error {first : Except ε α} {next : α → Except ε β} {e : ε} :
    (first >>= next) = .error e ↔
      first = .error e ∨ ∃ value, first = .ok value ∧ next value = .error e := by
  cases first with
  | error e' => simp [bind, Except.bind]
  | ok value => simp [bind, Except.bind]

/-- A computation succeeded with a value exactly if that is what is left without the error. -/
theorem toOption_eq_some {result : Except ε α} {value : α} :
    result.toOption = some value ↔ result = .ok value := by
  cases result with
  | error e => simp [Except.toOption]
  | ok value' => simp [Except.toOption]

/-- A computation succeeded with a value of this image exactly if the image is what is left without
the error. -/
theorem map_toOption_eq_some {γ : Type w} {f : α → γ} {result : Except ε α} {image : γ} :
    result.toOption.map f = some image ↔ ∃ value, result = .ok value ∧ f value = image := by
  simp only [Option.map_eq_some_iff, toOption_eq_some]

end

/-- What a list is related to item by item comes from its items. -/
theorem exists_mem_of_forall₂ {α : Type u} {β : Type v} {R : α → β → Prop} {items : List α}
    {results : List β} (h : List.Forall₂ R items results) {b : β} (hb : b ∈ results) :
    ∃ a ∈ items, R a b := by
  induction h with
  | nil => cases hb
  | @cons a _ _ _ hab _ ih =>
    rcases List.mem_cons.1 hb with rfl | hb
    · exact ⟨a, .head _, hab⟩
    · obtain ⟨a', ha', hab'⟩ := ih hb
      exact ⟨a', .tail _ ha', hab'⟩

section
variable {α β : Type} {ε : Type}

/-- A step for every item of a list succeeds exactly if each of them does. -/
theorem mapM_eq_ok {f : α → Except ε β} {items : List α} {results : List β} :
    items.mapM f = .ok results ↔ List.Forall₂ (fun a b => f a = .ok b) items results := by
  induction items generalizing results with
  | nil => cases results <;> simp [pure, Except.pure]
  | cons a items ih =>
    rw [List.mapM_cons, bind_eq_ok, List.forall₂_cons_left_iff]
    constructor
    · rintro ⟨b, hb, h⟩
      obtain ⟨bs, hbs, h⟩ := bind_eq_ok.1 h
      cases h
      exact ⟨b, bs, hb, ih.1 hbs, rfl⟩
    · rintro ⟨b, bs, hb, hbs, rfl⟩
      exact ⟨b, hb, bind_eq_ok.2 ⟨bs, ih.2 hbs, rfl⟩⟩

/-- A step for every item of a list fails exactly with the error of the first one that fails. -/
theorem mapM_eq_error {f : α → Except ε β} {items : List α} {e : ε} :
    items.mapM f = .error e ↔
      ∃ item, FirstFailing (fun item => ∃ b, f item = .ok b) items item ∧ f item = .error e := by
  induction items with
  | nil => simp [not_firstFailing_nil, pure, Except.pure]
  | cons head tail ih =>
    simp only [List.mapM_cons, bind_eq_error, firstFailing_cons, ih]
    constructor
    · rintro (herror | ⟨b, hb, ⟨item, hitem, herror⟩ | ⟨_, -, h⟩⟩)
      · exact ⟨head, .inl ⟨rfl, by simp [herror]⟩, herror⟩
      · exact ⟨item, .inr ⟨⟨b, hb⟩, hitem⟩, herror⟩
      · cases h
    · rintro ⟨item, ⟨rfl, -⟩ | ⟨⟨b, hb⟩, hitem⟩, herror⟩
      · exact .inl herror
      · exact .inr ⟨b, hb, .inl ⟨item, hitem, herror⟩⟩

/-- It has results exactly if there is one for each item. -/
theorem exists_mapM_eq_ok {f : α → Except ε β} {items : List α} :
    (∃ results, items.mapM f = .ok results) ↔ ∀ item ∈ items, ∃ b, f item = .ok b := by
  constructor
  · rintro ⟨results, h⟩
    rcases forall_or_exists_firstFailing (fun item => ∃ b, f item = .ok b) items with
      hall | ⟨item, hitem⟩
    · exact hall
    · cases hf : f item with
      | ok b => exact absurd ⟨b, hf⟩ hitem.not_good
      | error e => cases h.symm.trans (mapM_eq_error.2 ⟨item, hitem, hf⟩)
  · intro hall
    cases h : items.mapM f with
    | ok results => exact ⟨results, rfl⟩
    | error e =>
      obtain ⟨item, hitem, -⟩ := mapM_eq_error.1 h
      exact absurd (hall item hitem.mem) hitem.not_good

/-- A partial function has a value at every item of a list exactly if it has one at each of them. -/
theorem mapM_eq_some {f : α → Option β} {items : List α} {results : List β} :
    items.mapM f = some results ↔ List.Forall₂ (fun a b => f a = some b) items results := by
  induction items generalizing results with
  | nil => cases results <;> simp [pure]
  | cons a items ih =>
    rw [List.mapM_cons, Option.bind_eq_bind, Option.bind_eq_some_iff, List.forall₂_cons_left_iff]
    constructor
    · rintro ⟨b, hb, h⟩
      obtain ⟨bs, hbs, h⟩ := Option.bind_eq_some_iff.1 h
      cases h
      exact ⟨b, bs, hb, ih.1 hbs, rfl⟩
    · rintro ⟨b, bs, hb, hbs, rfl⟩
      exact ⟨b, hb, Option.bind_eq_some_iff.2 ⟨bs, ih.2 hbs, rfl⟩⟩

/-- The values at the items of a list do not depend on the proofs that these are its items. -/
theorem mapM_attach_eq_some {f : α → Option β} {items : List α} {results : List β} :
    (items.attach.mapM fun item => f item.1) = some results ↔
      List.Forall₂ (fun a b => f a = some b) items results := by
  have hvals := List.forall₂_map_left_iff (R := fun a b => f a = some b) (f := Subtype.val)
    (l := items.attach) (u := results)
  rw [List.attach_map_subtype_val] at hvals
  rw [mapM_eq_some, hvals]

end

end ValueShadow
