import ValueShadow.Java.Mentions
import ValueShadow.Java.Scope

/-!
# Source of a generated class

The file of a generated class as lines of text. Everything that is written of a class name goes
through one function `spell`, which `Java.source` takes from the scope of the classes that the file
mentions.
-/

namespace ValueShadow.Java

/-- The lines, four spaces further to the right; a blank line stays empty. -/
def indent (lines : List String) : List String :=
  lines.map fun line => if line.isEmpty then line else "    " ++ line

/-- The lines inside braces after an opening line. -/
def block (opening : String) (lines : List String) : List String :=
  (opening ++ " \x7b") :: (indent lines ++ ["\x7d"])

/-- The parts with a comma between them. -/
def commaSeparated (parts : List String) : String :=
  ", ".intercalate parts

section

variable (spell : QualifiedName → String)

mutual

/-- A type where a field, parameter or local variable is declared. -/
def typeName : PropertyType → String
  | .primitive (.unboxed kind) => kind.keyword
  | .primitive (.boxed kind) => spell kind.boxedClass
  | .primitive .string => spell (.ofClass "java.lang" "String")
  | .collection kind element => spell kind.className ++ "<" ++ typeArgument element ++ ">"
  | .keyed kind key element =>
    spell kind.className ++ "<" ++ commaSeparated [typeArgument key, typeArgument element] ++ ">"
  | .valueRef name => spell name
  | .parameterized raw arguments =>
    spell raw ++ "<" ++ commaSeparated (typeArguments arguments) ++ ">"

/-- A type between `<` and `>`, where an unboxed primitive is written as its boxing class. -/
def typeArgument : PropertyType → String
  | .primitive (.unboxed kind) => spell kind.boxedClass
  | type => typeName type

/-- Several types between `<` and `>`. -/
def typeArguments : List PropertyType → List String
  | [] => []
  | type :: types => typeArgument type :: typeArguments types

end

/-- The members of an annotation; a single member `value` is written without its name. -/
def annotationMembers : List AnnotationMember → String
  | [] => ""
  | [⟨name, value⟩] =>
    if name = "value" then "(" ++ value ++ ")" else "(" ++ name ++ " = " ++ value ++ ")"
  | members => "(" ++ commaSeparated (members.map fun m => m.name ++ " = " ++ m.value) ++ ")"

/-- The lines of the annotations in front of a declaration. -/
def annotationLines (annotations : List AnnotationUse) : List String :=
  annotations.map fun use => "@" ++ spell use.typeName ++ annotationMembers use.members

/-- The type of the entries of a map. -/
def entryType (key : Primitive) (value : QualifiedName) : String :=
  spell CollectionKind.map.className ++ ".Entry<" ++ typeArgument spell (.primitive key) ++ ", " ++
    spell value ++ ">"

/-- A loop over the items of a container that may be absent, after `fresh` made the result. -/
def conversionLoop (source fresh loopVariable items body : String) : List String :=
  block ("if (" ++ source ++ " != null)")
    (fresh :: block ("for (" ++ loopVariable ++ " : " ++ items ++ ")") [body])

/-- The lines that set a field of the shadow object from the value object. -/
def assignmentLines (parameter : String) (assignment : FieldAssignment) : List String :=
  let source := parameter ++ "." ++ assignment.accessor ++ "()"
  let field := "this." ++ assignment.field
  match assignment.conversion with
  | .copy => [field ++ " = " ++ source ++ ";"]
  | .nested _ shadow =>
    [field ++ " = " ++ source ++ " == null ? null : new " ++ spell shadow ++ "(" ++ source ++ ");"]
  | .nestedList value shadow item =>
    conversionLoop source
      (field ++ " = new " ++ spell CollectionKind.list.implementation ++ "<>();")
      (spell value ++ " " ++ item) source
      (field ++ ".add(new " ++ spell shadow ++ "(" ++ item ++ "));")
  | .nestedMap key value shadow entry =>
    conversionLoop source
      (field ++ " = new " ++ spell CollectionKind.map.implementation ++ "<>();")
      (entryType spell key value ++ " " ++ entry) (source ++ ".entrySet()")
      (field ++ ".put(" ++ entry ++ ".getKey(), new " ++ spell shadow ++ "(" ++ entry ++
        ".getValue()));")

/-- The lines that set a local variable from a field of the shadow object. -/
def bindingLines (method : String) (binding : ReverseBinding) : List String :=
  let target := binding.target.name
  let declaration := typeName spell binding.target.type ++ " " ++ target
  let field := "this." ++ binding.field
  match binding.conversion with
  | .copy => [declaration ++ " = " ++ field ++ ";"]
  | .nested .. =>
    [declaration ++ " = " ++ field ++ " == null ? null : " ++ field ++ "." ++ method ++ "();"]
  | .nestedList _ shadow item =>
    (declaration ++ " = null;") ::
      conversionLoop field
        (target ++ " = new " ++ spell CollectionKind.list.implementation ++ "<>();")
        (spell shadow ++ " " ++ item) field
        (target ++ ".add(" ++ item ++ "." ++ method ++ "());")
  | .nestedMap key _ shadow entry =>
    (declaration ++ " = null;") ::
      conversionLoop field
        (target ++ " = new " ++ spell CollectionKind.map.implementation ++ "<>();")
        (entryType spell key shadow ++ " " ++ entry) (field ++ ".entrySet()")
        (target ++ ".put(" ++ entry ++ ".getKey(), " ++ entry ++ ".getValue()." ++ method ++ "());")

/-- The constructor that copies a value object. -/
def forwardConstructorLines (name : String) (forward : ForwardConstructor) : List String :=
  let parameter := forward.parameter
  block (name ++ "(" ++ typeName spell parameter.type ++ " " ++ parameter.name ++ ")")
    (forward.assignments.flatMap (assignmentLines spell parameter.name))

/-- The method that turns a shadow object back into a value object. -/
def reverseConversionLines (reverse : ReverseConversion) : List String :=
  let returnType := spell reverse.returnType
  annotationLines spell reverse.annotations ++
    block ("public " ++ returnType ++ " " ++ reverse.name ++ "()")
      (reverse.bindings.flatMap (bindingLines spell reverse.name) ++
        ["return new " ++ returnType ++ "(" ++ commaSeparated reverse.arguments ++ ");"])

/-- A getter. -/
def getterLines (getter : Getter) : List String :=
  annotationLines spell getter.annotations ++
    block ("public " ++ typeName spell getter.returnType ++ " " ++ getter.name ++ "()")
      ["return " ++ getter.field ++ ";"]

/-- The shadow class, a blank line in front of each member. -/
def shadowLines (shadow : ShadowClass) : List String :=
  let name := shadow.name.simpleName
  let fields := shadow.fields.map fun field =>
    ["private " ++ typeName spell field.type ++ " " ++ field.name ++ ";"]
  let emptyConstructor := annotationLines spell shadow.emptyConstructor ++ block (name ++ "()") []
  let members :=
    fields ++ [emptyConstructor, forwardConstructorLines spell name shadow.forwardConstructor,
      reverseConversionLines spell shadow.reverseConversion] ++
      shadow.getters.map (getterLines spell)
  annotationLines spell shadow.annotations ++
    block ("static final class " ++ name) (members.flatMap ("" :: ·))

/-- The wrapper class with its constructor and the shadow class. -/
def wrapperLines (wrapper : WrapperClass) (shadow : ShadowClass) : List String :=
  let name := wrapper.name.simpleName
  let parameters := wrapper.parameters.map fun p => typeName spell p.type ++ " " ++ p.name
  let arguments := wrapper.parameters.map (·.name)
  block
    ((if wrapper.isFinal then "final" else "abstract") ++ " class " ++ name ++ " extends " ++
      wrapper.superclass)
    (block (name ++ "(" ++ commaSeparated parameters ++ ")")
        ["super(" ++ commaSeparated arguments ++ ");"] ++
      "" :: shadowLines spell shadow)

end

/-- The lines, each with a line break at its end. -/
def textOf (lines : List String) : String :=
  String.join (lines.map (· ++ "\n"))

/-- The line of the package and a blank one, if the class is in a package. -/
def packageLines (package : String) : List String :=
  if package.isEmpty then [] else ["package " ++ package ++ ";", ""]

/-- The lines of the imports and a blank one, if there are imports. -/
def importLines (imports : List String) : List String :=
  if imports.isEmpty then [] else imports.map ("import " ++ · ++ ";") ++ [""]

/-- The scope of the file of a generated class. -/
def scopeOf (generated : GeneratedClass) : Scope :=
  .ofNames generated.wrapper.name.package generated.wrapper.name (mentions generated)

/-- The file of a generated class. -/
def source (generated : GeneratedClass) : String :=
  let scope := scopeOf generated
  textOf (packageLines generated.wrapper.name.package ++ importLines scope.imports ++
    wrapperLines scope.spell generated.wrapper generated.shadow)

end ValueShadow.Java
