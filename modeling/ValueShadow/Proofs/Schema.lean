import ValueShadow.Schema
import ValueShadow.Proofs.Result
import Mathlib.Data.List.Nodup

/-!
# Schemas as lists of properties

A property is added to a schema exactly if it can be spelled and its name is new
(`Schema.push_eq_ok`); it is refused for its own sake exactly if it cannot be spelled
(`Schema.push_invalid_iff`) and otherwise for its name (`Schema.push_duplicate_iff`). So a list of
properties is accepted exactly if some schema has these properties, in their order, and it is that
schema (`Schema.ofList_eq_ok`): what holds of the properties of every schema holds of every accepted
list. A list that is refused is refused for one property, which cannot be added to those before it
(`Schema.ofList_eq_error`). Each property of a schema is found under its name
(`Schema.get?_eq_some_iff`).
-/

namespace ValueShadow

/-! ## Properties that can be spelled -/

/-- No accessor that is no identifier is found exactly if the accessor, where there is one, is an
identifier. -/
theorem filter_accessor_eq_none_iff {accessor : Option String} :
    (accessor.filter fun method => !isIdentifier method) = none ↔
      ∀ method ∈ accessor, isIdentifier method = true := by
  simp [Option.filter_eq_none_iff]

/-- The generated source can spell the property: its name is an identifier and so is its accessor,
if it names one, and its getter is not the method that cannot be overridden. -/
structure Property.IsSpellable (property : Property) : Prop where
  name : isIdentifier property.name = true
  accessor : ∀ method ∈ property.ownAccessor, isIdentifier method = true
  getter : getterName property.name ≠ "getClass"

/-- Nothing is wrong with a property exactly if it can be spelled. -/
theorem Property.problem?_eq_none_iff {property : Property} :
    property.problem? = none ↔ property.IsSpellable := by
  rw [problem?]
  constructor
  · intro h
    split at h
    · cases h
    · next hname =>
      split at h
      · cases h
      · next haccessor =>
        split at h
        · cases h
        · next hgetter =>
          exact ⟨by simpa using hname, filter_accessor_eq_none_iff.1 haccessor, hgetter⟩
  · rintro ⟨hname, haccessor, hgetter⟩
    simp [hname, filter_accessor_eq_none_iff.2 haccessor, hgetter]

namespace Schema

variable {schema result : Schema} {property : Property} {properties : List Property} {name : String}

/-! ## Adding properties -/

/-- Schemas with the same properties are the same. -/
theorem eq_of_properties_eq {other : Schema} (h : schema.properties = other.properties) :
    schema = other := by
  cases schema
  cases other
  cases h
  rfl

/-- A property of a schema can be spelled and does not have the name of one before it. -/
theorem fresh_of_append {before after : List Property}
    (h : schema.properties = before ++ property :: after) :
    property.problem? = none ∧ property.name ∉ before.map Property.name := by
  have hdistinct := schema.distinct
  rw [h, List.map_append, List.map_cons, List.nodup_append] at hdistinct
  refine ⟨schema.spellable property (by simp [h]), fun hold => ?_⟩
  exact hdistinct.2.2 _ hold _ (.head _) rfl

/-- A property that can be spelled and has a new name is added at the end. -/
theorem exists_push (hspellable : property.problem? = none)
    (hfresh : property.name ∉ schema.properties.map Property.name) :
    ∃ result, schema.push property = .ok result ∧
      result.properties = schema.properties ++ [property] := by
  unfold push
  split
  · next hproblem =>
    rw [hspellable] at hproblem
    cases hproblem
  · rw [dif_neg hfresh]
    exact ⟨_, rfl, rfl⟩

/-- The schema with one more property has the properties of the other one and this one at the
end. -/
theorem push_eq_ok :
    schema.push property = .ok result ↔ result.properties = schema.properties ++ [property] := by
  constructor
  · intro h
    unfold push at h
    split at h
    · cases h
    · split at h
      · cases h
      · cases h
        rfl
  · intro h
    obtain ⟨hspellable, hfresh⟩ := fresh_of_append h
    obtain ⟨pushed, hpush, hproperties⟩ := exists_push hspellable hfresh
    rw [hpush, eq_of_properties_eq (hproperties.trans h.symm)]

/-- The schema with more properties has the properties of the other one and these at the end. -/
theorem pushAll_eq_ok :
    schema.pushAll properties = .ok result ↔
      result.properties = schema.properties ++ properties := by
  induction properties generalizing schema with
  | nil =>
    cases schema
    cases result
    simp [pushAll, eq_comm]
  | cons property properties ih =>
    rw [pushAll, bind_eq_ok]
    simp only [push_eq_ok, ih]
    constructor
    · rintro ⟨pushed, hpushed, hresult⟩
      rw [hresult, hpushed, List.append_assoc, List.singleton_append]
    · intro h
      obtain ⟨hspellable, hfresh⟩ := fresh_of_append h
      obtain ⟨pushed, -, hpushed⟩ := exists_push hspellable hfresh
      refine ⟨pushed, hpushed, ?_⟩
      rw [h, hpushed, List.append_assoc, List.singleton_append]

/-- A list of properties is accepted exactly if it is that of a schema, and makes this schema. -/
theorem ofList_eq_ok : ofList properties = .ok schema ↔ schema.properties = properties := by
  rw [ofList, pushAll_eq_ok, empty, List.nil_append]

/-- A property is refused because it cannot be spelled, or else because its name is taken. -/
theorem push_eq_error {e : ShadowError} :
    schema.push property = .error e ↔
      (∃ problem, property.problem? = some problem ∧ .invalidProperty property.name problem = e) ∨
        (property.problem? = none ∧ property.name ∈ schema.properties.map Property.name ∧
          .duplicateProperty property.name = e) := by
  unfold push
  split
  · next problem hproblem => simp [hproblem]
  · next hspellable =>
    split
    · next htaken => simp [hspellable, htaken]
    · next hfresh => simp [hspellable, hfresh]

/-- A property is refused for its own sake exactly if it cannot be spelled, whatever the schema
holds. -/
theorem push_invalid_iff :
    (∃ problem, schema.push property = .error (.invalidProperty property.name problem)) ↔
      ¬ property.IsSpellable := by
  rw [← Property.problem?_eq_none_iff, ← ne_eq, Option.ne_none_iff_exists']
  simp [push_eq_error]

/-- A property that can be spelled is refused exactly if its name is taken. -/
theorem push_duplicate_iff :
    schema.push property = .error (.duplicateProperty property.name) ↔
      property.IsSpellable ∧ ∃ earlier ∈ schema.properties, earlier.name = property.name := by
  rw [← Property.problem?_eq_none_iff]
  simp [push_eq_error]

/-- A property is accepted exactly if it can be spelled and its name is new. -/
theorem exists_push_iff :
    (∃ next, schema.push property = .ok next) ↔
      property.IsSpellable ∧ ∀ earlier ∈ schema.properties, earlier.name ≠ property.name := by
  rw [← Property.problem?_eq_none_iff]
  constructor
  · rintro ⟨next, hnext⟩
    obtain ⟨hspellable, hfresh⟩ := fresh_of_append (push_eq_ok.1 hnext)
    exact ⟨hspellable, by simpa using hfresh⟩
  · rintro ⟨hspellable, hfresh⟩
    obtain ⟨next, hnext, -⟩ := exists_push hspellable (by simpa using hfresh)
    exact ⟨next, hnext⟩

/-- Properties are refused for one of them, which cannot be added after the others before it. -/
theorem pushAll_eq_error {e : ShadowError} :
    schema.pushAll properties = .error e ↔
      ∃ (before : List Property) (property : Property) (after : List Property) (pushed : Schema),
        properties = before ++ property :: after ∧
          pushed.properties = schema.properties ++ before ∧ pushed.push property = .error e := by
  induction properties generalizing schema with
  | nil => simp [pushAll]
  | cons property properties ih =>
    rw [pushAll, bind_eq_error]
    constructor
    · rintro (herror | ⟨next, hnext, herror⟩)
      · exact ⟨[], property, properties, schema, rfl, (List.append_nil _).symm, herror⟩
      · obtain ⟨before, failing, after, pushed, rfl, hpushed, herror⟩ := ih.1 herror
        refine ⟨property :: before, failing, after, pushed, rfl, ?_, herror⟩
        rw [hpushed, push_eq_ok.1 hnext, List.append_assoc, List.singleton_append]
    · rintro ⟨before, failing, after, pushed, hsplit, hpushed, herror⟩
      rcases List.cons_eq_append_iff.1 hsplit with ⟨rfl, hcons⟩ | ⟨before, rfl, rfl⟩
      · cases hcons
        obtain rfl : pushed = schema := eq_of_properties_eq (by rw [hpushed, List.append_nil])
        exact .inl herror
      · obtain ⟨hspellable, hfresh⟩ := fresh_of_append hpushed
        obtain ⟨next, hnext, hproperties⟩ := exists_push hspellable hfresh
        refine .inr ⟨next, hnext, ih.2 ⟨before, failing, after, pushed, rfl, ?_, herror⟩⟩
        rw [hpushed, hproperties, List.append_assoc, List.singleton_append]

/-- A list of properties is refused for one of them, which cannot be added to the schema of those
before it. -/
theorem ofList_eq_error {e : ShadowError} :
    ofList properties = .error e ↔
      ∃ (before : List Property) (property : Property) (after : List Property) (pushed : Schema),
        properties = before ++ property :: after ∧ pushed.properties = before ∧
          pushed.push property = .error e := by
  simp only [ofList, pushAll_eq_error, empty, List.nil_append]

/-- The last of several properties is added to the schema with the others. -/
theorem pushAll_append_singleton (schema : Schema) (before : List Property) (property : Property) :
    schema.pushAll (before ++ [property]) = schema.pushAll before >>= (·.push property) := by
  induction before generalizing schema with
  | nil =>
    change (schema.push property >>= fun next => Except.ok next) = schema.push property
    cases schema.push property <;> rfl
  | cons first before ih =>
    rw [List.cons_append, pushAll, pushAll]
    cases schema.push first with
    | error e => rfl
    | ok next => exact ih next

/-! ## Looking up -/

/-- A property is found by its name. -/
theorem get?_eq_some_iff :
    schema.get? name = some property ↔ property ∈ schema.properties ∧ property.name = name := by
  rw [get?]
  constructor
  · intro h
    exact ⟨List.mem_of_find?_eq_some h, by simpa using List.find?_some h⟩
  · rintro ⟨hmem, rfl⟩
    obtain ⟨found, hfound⟩ : ∃ found, schema.properties.find? (·.name == property.name) =
        some found := by
      rw [← Option.isSome_iff_exists, List.find?_isSome]
      exact ⟨property, hmem, beq_self_eq_true property.name⟩
    have hname : found.name = property.name := by simpa using List.find?_some hfound
    have hfoundMem := List.mem_of_find?_eq_some hfound
    rw [hfound, List.inj_on_of_nodup_map schema.distinct hfoundMem hmem hname]

/-- Nothing is found under a name that no property has. -/
theorem get?_eq_none_iff :
    schema.get? name = none ↔ ∀ property ∈ schema.properties, property.name ≠ name := by
  simp [get?]

end Schema

end ValueShadow
