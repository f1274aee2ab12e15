import ValueShadow.Manifest.Basic
import ValueShadow.Toml.Parser
import ValueShadow.Toml.Printer

/-!
# Reading a manifest

A manifest is the table of a TOML document. Each part is a record: a table of its fields by name, or
an array of them in order, of which surplus items do not count. Fields that are left out have their
standard values, if they have any, and unknown keys do not count.
-/

namespace ValueShadow

open Toml

namespace Manifest

/-- The text of a value that is a string. -/
def text? : Value → Option String
  | .string text => some text
  | _ => none

/-- The truth value. -/
def boolean? : Value → Option Bool
  | .boolean value => some value
  | _ => none

/-- The only character of a value that is a string. -/
def character? : Value → Option Char
  | .string text =>
    match text.toList with
    | [c] => some c
    | _ => none
  | _ => none

/-- The items of an array, each read by `item`. -/
def items? {α : Type} (item : Value → Option α) : Value → Option (List α)
  | .array items => items.mapM item
  | _ => none

/-- The entries of a table. A date or time counts as the table that holds its text under one
reserved key. -/
def entries? : Value → Option (List (String × Value))
  | .table entries => some entries
  | .datetime value => some [("$__toml_private_datetime", .string value.text)]
  | _ => none

/-- The fields of a record, in the order of their names. -/
def fields? (names : List String) : Value → Option (List (Option Value))
  | .array items => some ((List.range names.length).map fun i => items[i]?)
  | value => do
    let entries ← entries? value
    return names.map fun name => entries.lookup name

/-- A field that has to be there. -/
def required {α : Type} (read : Value → Option α) (field : Option Value) : Option α :=
  field.bind read

/-- A field with a standard value. -/
def standard {α : Type} (value : α) (read : Value → Option α) : Option Value → Option α
  | none => some value
  | some field => read field

/-- A field that may be left out. -/
def optional {α : Type} (read : Value → Option α) : Option Value → Option (Option α)
  | none => some none
  | some field => (read field).map some

/-- The settings of how classes are named. -/
def naming? (value : Value) : Option Naming := do
  match ← fields? ["generated_prefix", "shadow_suffix", "chain_marker", "reverse_conversion"] value
    with
  | [generatedPrefix, shadowSuffix, chainMarker, reverseConversion] =>
    return {
      generatedPrefix := ← standard ({} : Naming).generatedPrefix text? generatedPrefix
      shadowSuffix := ← standard ({} : Naming).shadowSuffix text? shadowSuffix
      chainMarker := ← standard ({} : Naming).chainMarker character? chainMarker
      reverseConversion := ← standard ({} : Naming).reverseConversion text? reverseConversion }
  | _ => none

/-- The settings of a run. -/
def settings? (value : Value) : Option Settings := do
  match ← fields? ["naming", "marker_annotation"] value with
  | [naming, marker] =>
    return {
      naming := ← standard {} naming? naming
      marker := ← standard ({} : Settings).marker text? marker }
  | _ => none

/-- The source text of an annotation's member: a string itself, and any other value as it is
written. -/
def memberText : Value → String
  | .string text => text
  | value => value.display

/-- An annotation in use: the dotted name of its type, or a table with the type and the members. -/
def annotationUse? : Value → Option AnnotationUse
  | .string name => some (.bare (.ofDotted name))
  | .table entries => do
    let name ← required text? (entries.lookup "type")
    let members ← standard [] entries? (entries.lookup "members")
    return ⟨.ofDotted name, members.map fun (member, value) => ⟨member, memberText value⟩⟩
  | _ => none

/-- The description of a property. -/
def propertyEntry? (value : Value) : Option PropertyEntry := do
  match ← fields? ["name", "type", "accessor", "annotations"] value with
  | [name, type, accessor, annotations] =>
    return {
      name := ← required text? name
      type := ← required text? type
      accessor := ← optional text? accessor
      annotations := ← standard [] (items? annotationUse?) annotations }
  | _ => none

/-- The description of a value class. -/
def valueEntry? (value : Value) : Option ValueEntry := do
  match ← fields? ["name", "generated", "extends", "final", "annotations", "property"] value with
  | [name, generated, superclass, isFinal, annotations, properties] =>
    return {
      name := ← required text? name
      generatedName := ← optional text? generated
      superclassName := ← optional text? superclass
      isFinal := ← standard true boolean? isFinal
      annotations := ← standard [] (items? annotationUse?) annotations
      properties := ← standard [] (items? propertyEntry?) properties }
  | _ => none

/-- The manifest in the table of a document. -/
def ofEntries? (entries : List (String × Value)) : Option Manifest := do
  return {
    settings := ← standard {} settings? (entries.lookup "generator")
    values := ← standard [] (items? valueEntry?) (entries.lookup "value") }

/-- Reads the text of a manifest. -/
def parse (text : String) : Option Manifest := do
  ofEntries? (← Toml.parse text)

end Manifest

end ValueShadow
