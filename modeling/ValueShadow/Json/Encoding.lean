import ValueShadow.Json.Basic
import ValueShadow.ShadowClass.Basic

/-!
# Generated classes as JSON

What is generated for a value class, as a tree without loss: a type, a conversion and an annotation
each have a tag or a set of members that tells their alternatives apart.
-/

namespace ValueShadow

namespace Json

/-- A dotted class name. -/
def ofName (name : QualifiedName) : Json :=
  .string name.display

/-- An object with one member, which tags a value with its alternative. -/
def tagged (tag : String) (value : Json) : Json :=
  .object [(tag, value)]

/-- A primitive-like type. -/
def ofPrimitive : Primitive → Json
  | .unboxed kind => tagged "unboxed" (.string kind.keyword)
  | .boxed kind => tagged "boxed" (.string kind.keyword)
  | .string => .string "string"

/-- The kind of a container. -/
def ofCollectionKind : CollectionKind → Json
  | .list => .string "list"
  | .map => .string "map"

mutual

/-- A type. -/
def ofType : PropertyType → Json
  | .primitive simple => tagged "primitive" (ofPrimitive simple)
  | .collection kind element =>
    tagged "collection"
      (.object [("kind", ofCollectionKind kind), ("key", .null), ("element", ofType element)])
  | .keyed kind key element =>
    tagged "collection"
      (.object [("kind", ofCollectionKind kind), ("key", ofType key), ("element", ofType element)])
  | .valueRef name => tagged "value_ref" (ofName name)
  | .parameterized raw arguments =>
    tagged "parameterized"
      (.object [("raw", ofName raw), ("arguments", .array (ofTypes arguments))])

/-- Several types. -/
def ofTypes : List PropertyType → List Json
  | [] => []
  | type :: types => ofType type :: ofTypes types

end

/-- An annotation in use. -/
def ofAnnotationUse (use : AnnotationUse) : Json :=
  .object
    [("type_name", ofName use.typeName),
      ("members", .array (use.members.map fun member =>
        .object [("name", .string member.name), ("value", .string member.value)]))]

/-- Several annotations. -/
def ofAnnotations (annotations : List AnnotationUse) : Json :=
  .array (annotations.map ofAnnotationUse)

/-- A field or parameter. -/
def ofVariable (v : Variable) : Json :=
  .object [("name", .string v.name), ("ty", ofType v.type)]

/-- A conversion. -/
def ofConversion : Conversion → Json
  | .copy => .object [("kind", .string "copy")]
  | .nested value shadow =>
    .object [("kind", .string "nested"), ("value", ofName value), ("shadow", ofName shadow)]
  | .nestedList value shadow item =>
    .object
      [("kind", .string "nested_list"), ("value", ofName value), ("shadow", ofName shadow),
        ("item", .string item)]
  | .nestedMap key value shadow entry =>
    .object
      [("kind", .string "nested_map"), ("key", ofPrimitive key), ("value", ofName value),
        ("shadow", ofName shadow), ("entry", .string entry)]

/-- An assignment of the forward constructor. -/
def ofAssignment (assignment : FieldAssignment) : Json :=
  .object
    [("field", .string assignment.field), ("accessor", .string assignment.accessor),
      ("conversion", ofConversion assignment.conversion)]

/-- A binding of the reverse conversion. -/
def ofBinding (binding : ReverseBinding) : Json :=
  .object
    [("local", .string binding.target.name), ("ty", ofType binding.target.type),
      ("field", .string binding.field), ("conversion", ofConversion binding.conversion)]

/-- A getter. -/
def ofGetter (getter : Getter) : Json :=
  .object
    [("name", .string getter.name), ("field", .string getter.field),
      ("return_type", ofType getter.returnType), ("annotations", ofAnnotations getter.annotations)]

/-- A forward constructor. -/
def ofForwardConstructor (forward : ForwardConstructor) : Json :=
  .object
    [("parameter", ofVariable forward.parameter),
      ("assignments", .array (forward.assignments.map ofAssignment))]

/-- A reverse conversion. -/
def ofReverseConversion (reverse : ReverseConversion) : Json :=
  .object
    [("name", .string reverse.name), ("annotations", ofAnnotations reverse.annotations),
      ("return_type", ofName reverse.returnType),
      ("bindings", .array (reverse.bindings.map ofBinding)),
      ("arguments", ofStrings reverse.arguments)]

/-- A shadow class. -/
def ofShadowClass (shadow : ShadowClass) : Json :=
  .object
    [("name", ofName shadow.name), ("source", ofName shadow.source),
      ("annotations", ofAnnotations shadow.annotations),
      ("fields", .array (shadow.fields.map ofVariable)),
      ("empty_constructor", .object [("annotations", ofAnnotations shadow.emptyConstructor)]),
      ("forward_constructor", ofForwardConstructor shadow.forwardConstructor),
      ("reverse_conversion", ofReverseConversion shadow.reverseConversion),
      ("getters", .array (shadow.getters.map ofGetter))]

/-- A wrapper class. -/
def ofWrapperClass (wrapper : WrapperClass) : Json :=
  .object
    [("name", ofName wrapper.name), ("extends", .string wrapper.superclass),
      ("is_final", .bool wrapper.isFinal),
      ("constructor", .array (wrapper.parameters.map ofVariable))]

/-- What is generated for a value class. -/
def ofGeneratedClass (generated : GeneratedClass) : Json :=
  .object
    [("value_class", ofName generated.valueClass),
      ("wrapper", ofWrapperClass generated.wrapper),
      ("model", ofShadowClass generated.shadow),
      ("references", .array (generated.references.map ofName))]

end Json

end ValueShadow
