import ValueShadow.Proofs.Lookup
import ValueShadow.Proofs.Objects.Datum
import ValueShadow.Session
import Mathlib.Data.Option.Basic

/-!
# Taking objects across

The shadow classes of a run work on objects. `Session.construct` makes the object of a shadow class
from an object of its value class: every field is set to the converted value that its accessor
returns. `Session.rebuild` goes back: every local variable is bound to the value of its field,
converted back, and the listed ones become the arguments of the new object. A shadow class is named
as references spell it (`Session.denoted`). Both give nothing where the program would not run.
-/

namespace ValueShadow

/-- What an accessor returns of an object with these arguments: the argument of the first property
that it reads. -/
def ValueClass.read (value : ValueClass) (arguments : List Datum) (accessor : String) :
    Option Datum :=
  ((value.schema.properties.map Property.accessor).zip arguments).lookup accessor

/-- What an accessor returns is an argument. -/
theorem ValueClass.mem_of_read_eq_some {value : ValueClass} {arguments : List Datum}
    {accessor : String} {argument : Datum} (h : value.read arguments accessor = some argument) :
    argument ∈ arguments :=
  (List.of_mem_zip (mem_of_lookup_eq_some h)).2

namespace Session

/-- The unit whose value class has that shadow class, as references spell it. -/
def denoted (session : Session) (shadow : QualifiedName) : Option GeneratedClass :=
  session.run.units.find? fun unit =>
    (session.settings.naming.shadowName unit.valueClass).toOption = some shadow

/-- The fields of a new object of the shadow class after some were set; the others are absent. -/
def fieldsAfter (unit : GeneratedClass) (set : List (String × Datum)) : List (String × Datum) :=
  set.foldl setPair (unit.shadow.fields.map fun field => (field.name, Datum.null))

/-- The object of the shadow class made from an object of its value class. -/
def construct (session : Session) (shadow : QualifiedName) (source : Datum) : Option Datum :=
  match source with
  | .object valueClass arguments => do
    let unit ← session.denoted shadow
    guard (valueClass = unit.shadow.source)
    let value ← session.find? valueClass
    let set ← unit.shadow.forwardConstructor.assignments.mapM fun assignment =>
      assignment.conversion.convertInto assignment.field (value.read arguments assignment.accessor)
        fun shadow part _ => session.construct shadow part
    return .shadow shadow (fieldsAfter unit set)
  | _ => none
termination_by sizeOf source
decreasing_by
  obtain ⟨argument, hread, hpart⟩ := ‹∃ _, _›
  have hargument := List.sizeOf_lt_of_mem (ValueClass.mem_of_read_eq_some hread)
  simp only [Datum.object.sizeOf_spec]
  omega

/-- The object of the value class that an object of a shadow class is turned back into. -/
def rebuild (session : Session) (object : Datum) : Option Datum :=
  match object with
  | .shadow shadow fields => do
    let unit ← session.denoted shadow
    let locals ← unit.shadow.reverseConversion.bindings.mapM fun binding =>
      binding.conversion.convertInto binding.target.name (fields.lookup binding.field)
        fun _ part _ => session.rebuild part
    let arguments ← unit.shadow.reverseConversion.arguments.mapM fun name => locals.lookup name
    return .object unit.shadow.source arguments
  | _ => none
termination_by sizeOf object
decreasing_by
  obtain ⟨value, hfield, hpart⟩ := ‹∃ _, _›
  have hvalue := Datum.sizeOf_snd_lt_of_mem (mem_of_lookup_eq_some hfield)
  simp only [Datum.shadow.sizeOf_spec] at hvalue ⊢
  omega

/-- The objects of a value class and of a shadow class that become each other. -/
def RoundTrips (session : Session) (shadow : QualifiedName) (source result : Datum) : Prop :=
  session.construct shadow source = some result ∧ session.rebuild result = some source

section
variable {session : Session} {shadow : QualifiedName}

/-- The object of a shadow class is made exactly if every assignment reads an argument that can be
converted. -/
theorem construct_object_eq_some {valueClass : QualifiedName} {arguments : List Datum}
    {result : Datum} :
    session.construct shadow (.object valueClass arguments) = some result ↔
      ∃ unit value set, session.denoted shadow = some unit ∧ valueClass = unit.shadow.source ∧
        session.find? valueClass = some value ∧
        List.Forall₂ (fun assignment pair => assignment.field = pair.1 ∧
          ∃ argument, value.read arguments assignment.accessor = some argument ∧
            assignment.conversion.Converted (fun shadow part result =>
              session.construct shadow part = some result) argument pair.2)
          unit.shadow.forwardConstructor.assignments set ∧
        result = .shadow shadow (fieldsAfter unit set) := by
  rw [construct]
  simp only [Option.bind_eq_bind, Option.bind_eq_some_iff, mapM_eq_some,
    Conversion.convertInto_eq_some]
  constructor
  · rintro ⟨unit, hdenoted, _, hsource, value, hvalue, set, hset, h⟩
    cases h
    exact ⟨unit, value, set, hdenoted, (Option.guard_eq_some' _).1 hsource, hvalue, hset, rfl⟩
  · rintro ⟨unit, value, set, hdenoted, hsource, hvalue, hset, rfl⟩
    exact ⟨unit, hdenoted, (), (Option.guard_eq_some' _).2 hsource, value, hvalue, set, hset, rfl⟩

/-- What is made is an object of the shadow class. -/
theorem exists_fields_of_construct {source result : Datum}
    (h : session.construct shadow source = some result) :
    ∃ fields, result = .shadow shadow fields := by
  cases source with
  | object valueClass arguments =>
    obtain ⟨_, _, _, -, -, -, -, hresult⟩ := construct_object_eq_some.1 h
    exact ⟨_, hresult⟩
  | null | scalar | list | map | shadow =>
    rw [construct] at h
    · cases h
    · intros
      contradiction

/-- An object is turned back exactly if every binding finds a field that can be converted, and the
arguments are bound. -/
theorem rebuild_shadow_eq_some {fields : List (String × Datum)} {result : Datum} :
    session.rebuild (.shadow shadow fields) = some result ↔
      ∃ unit locals arguments, session.denoted shadow = some unit ∧
        List.Forall₂ (fun binding pair => binding.target.name = pair.1 ∧
          ∃ field, fields.lookup binding.field = some field ∧
            binding.conversion.Converted (fun _ part result => session.rebuild part = some result)
              field pair.2)
          unit.shadow.reverseConversion.bindings locals ∧
        List.Forall₂ (fun name argument => locals.lookup name = some argument)
          unit.shadow.reverseConversion.arguments arguments ∧
        result = .object unit.shadow.source arguments := by
  rw [rebuild]
  simp only [Option.bind_eq_bind, Option.bind_eq_some_iff, mapM_eq_some,
    Conversion.convertInto_eq_some]
  constructor
  · rintro ⟨unit, hdenoted, locals, hlocals, arguments, harguments, h⟩
    cases h
    exact ⟨unit, locals, arguments, hdenoted, hlocals, harguments, rfl⟩
  · rintro ⟨unit, locals, arguments, hdenoted, hlocals, harguments, rfl⟩
    exact ⟨unit, hdenoted, locals, hlocals, arguments, harguments, rfl⟩

end

end Session

end ValueShadow
