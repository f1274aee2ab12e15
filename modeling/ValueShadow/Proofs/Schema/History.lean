import ValueShadow.Proofs.Schema
import Mathlib.Data.List.Induction

/-!
# Histories of a schema

A caller pushes properties one after the other and goes on after a refusal with the schema it had.
`SchemaHistory` is a schema with the calls made so far and their refusals. One more call adds its
property at the end or leaves the schema alone (`SchemaHistory.push_cases`), so after any calls the
schema holds the properties that were accepted, in the order of their calls
(`SchemaHistory.properties_ofCalls`), and a list of properties is accepted as a whole exactly if
none of its calls is refused, or else refused like the first of them
(`SchemaHistory.ofList_eq_outcome`).
-/

namespace ValueShadow

/-! ## Histories -/

/-- A schema and the calls that were made to it, each with its refusal if it was refused. -/
structure SchemaHistory where
  schema : Schema
  calls : List (Property × Option ShadowError)

namespace SchemaHistory

/-- The empty schema, before any call. -/
def start : SchemaHistory :=
  ⟨.empty, []⟩

/-- The history after one more call. After a refusal the caller has the schema it had before. -/
def push (history : SchemaHistory) (property : Property) : SchemaHistory :=
  match history.schema.push property with
  | .ok next => ⟨next, history.calls ++ [(property, none)]⟩
  | .error refusal => ⟨history.schema, history.calls ++ [(property, some refusal)]⟩

/-- The history of calls made one after the other. -/
def ofCalls (properties : List Property) : SchemaHistory :=
  properties.foldl push start

/-- The properties of the calls that succeeded, in the order of the calls. -/
def accepted (history : SchemaHistory) : List Property :=
  (history.calls.filter (·.2.isNone)).map Prod.fst

/-- What comes of all calls together: the first refusal, or the schema if there is none. -/
def outcome (history : SchemaHistory) : Result Schema :=
  match history.calls.findSome? Prod.snd with
  | some refusal => .error refusal
  | none => .ok history.schema

theorem ofCalls_append_singleton (before : List Property) (property : Property) :
    ofCalls (before ++ [property]) = (ofCalls before).push property := by
  simp [ofCalls]

/-- A call succeeds with the next schema, or is refused and leaves the schema alone. -/
theorem push_cases (history : SchemaHistory) (property : Property) :
    (∃ next, history.schema.push property = .ok next ∧
      history.push property = ⟨next, history.calls ++ [(property, none)]⟩) ∨
    ∃ refusal, history.schema.push property = .error refusal ∧
      history.push property = ⟨history.schema, history.calls ++ [(property, some refusal)]⟩ := by
  rw [push]
  cases history.schema.push property with
  | ok next => exact .inl ⟨next, rfl, rfl⟩
  | error refusal => exact .inr ⟨refusal, rfl, rfl⟩

/-- All calls are in the history, in their order. -/
theorem map_fst_calls_ofCalls (properties : List Property) :
    (ofCalls properties).calls.map Prod.fst = properties := by
  induction properties using List.reverseRecOn with
  | nil => rfl
  | append_singleton before property ih =>
    rw [ofCalls_append_singleton]
    obtain ⟨next, -, hpush⟩ | ⟨refusal, -, hpush⟩ := (ofCalls before).push_cases property
    · rw [hpush, List.map_append, ih]
      rfl
    · rw [hpush, List.map_append, ih]
      rfl

/-- The schema holds the accepted properties, if it did so before the last call. -/
theorem properties_push {history : SchemaHistory}
    (h : history.schema.properties = history.accepted) (property : Property) :
    (history.push property).schema.properties = (history.push property).accepted := by
  obtain ⟨next, hnext, hpush⟩ | ⟨refusal, -, hpush⟩ := history.push_cases property
  · rw [hpush, Schema.push_eq_ok.1 hnext, h]
    simp [accepted]
  · rw [hpush, h]
    simp [accepted]

/-- After any calls, the schema holds the properties that were accepted. -/
theorem properties_ofCalls (properties : List Property) :
    (ofCalls properties).schema.properties = (ofCalls properties).accepted := by
  induction properties using List.reverseRecOn with
  | nil => rfl
  | append_singleton before property ih =>
    rw [ofCalls_append_singleton]
    exact properties_push ih property

/-- The first refusal stays what comes of all calls together, and the last call decides where there
was none. -/
theorem outcome_push (history : SchemaHistory) (property : Property) :
    (history.push property).outcome = history.outcome >>= (·.push property) := by
  -- A refusal before the last call hides what comes of this one, so both cases look for it first.
  obtain ⟨next, hnext, hpush⟩ | ⟨refusal, hrefusal, hpush⟩ := history.push_cases property
  · rw [hpush, outcome, outcome, List.findSome?_append]
    cases history.calls.findSome? Prod.snd with
    | some first => rfl
    | none => exact hnext.symm
  · rw [hpush, outcome, outcome, List.findSome?_append]
    cases history.calls.findSome? Prod.snd with
    | some first => rfl
    | none => exact hrefusal.symm

/-- A list of properties as a whole is accepted or refused as its calls are. -/
theorem ofList_eq_outcome (properties : List Property) :
    Schema.ofList properties = (ofCalls properties).outcome := by
  induction properties using List.reverseRecOn with
  | nil => rfl
  | append_singleton before property ih =>
    rw [ofCalls_append_singleton, outcome_push, ← ih]
    exact Schema.pushAll_append_singleton .empty before property

end SchemaHistory

/-- After any calls, refused or not, the schema holds the properties of the successful ones, in the
order of the calls. They can all be spelled, and each is found under its own name, which no other
one has. A further call is refused if the property cannot be spelled, whatever the schema, and
otherwise exactly if an earlier call was successful with the name; it leaves the schema as it was
then. All calls together are successful exactly if none of them is refused, and otherwise refused
like the first one. -/
theorem pushes_keep_wellFormed (calls : List Property) :
    let history := SchemaHistory.ofCalls calls
    history.calls.map Prod.fst = calls ∧
    history.schema.properties = history.accepted ∧
    history.schema.names.Nodup ∧
    (∀ property ∈ history.schema.properties, property.IsSpellable) ∧
    (∀ name property, history.schema.get? name = some property ↔
      property ∈ history.accepted ∧ property.name = name) ∧
    (∀ name, history.schema.get? name = none ↔
      ∀ property ∈ history.accepted, property.name ≠ name) ∧
    (∀ (schema : Schema) (property : Property),
      (∃ problem, schema.push property = .error (.invalidProperty property.name problem)) ↔
        ¬ property.IsSpellable) ∧
    (∀ property,
      (history.schema.push property = .error (.duplicateProperty property.name) ↔
        property.IsSpellable ∧ ∃ earlier ∈ history.accepted, earlier.name = property.name) ∧
      ((∃ next, history.schema.push property = .ok next) ↔
        property.IsSpellable ∧ ∀ earlier ∈ history.accepted, earlier.name ≠ property.name) ∧
      ∀ refusal, history.schema.push property = .error refusal →
        (history.push property).schema = history.schema) ∧
    Schema.ofList calls =
      match history.calls.findSome? Prod.snd with
      | some refusal => .error refusal
      | none => .ok history.schema := by
  intro history
  have hproperties : history.schema.properties = history.accepted :=
    SchemaHistory.properties_ofCalls calls
  refine ⟨SchemaHistory.map_fst_calls_ofCalls calls, hproperties, history.schema.distinct, ?_, ?_,
    ?_, fun _ _ => Schema.push_invalid_iff, fun property => ⟨?_, ?_, ?_⟩,
    SchemaHistory.ofList_eq_outcome calls⟩
  · intro property hmem
    exact Property.problem?_eq_none_iff.1 (history.schema.spellable property hmem)
  · rw [← hproperties]
    exact fun _ _ => Schema.get?_eq_some_iff
  · rw [← hproperties]
    exact fun _ => Schema.get?_eq_none_iff
  · rw [← hproperties]
    exact Schema.push_duplicate_iff
  · rw [← hproperties]
    exact Schema.exists_push_iff
  · intro refusal hrefusal
    obtain ⟨next, hnext, -⟩ | ⟨_, -, hpush⟩ := history.push_cases property
    · cases hnext.symm.trans hrefusal
    · rw [hpush]

end ValueShadow
