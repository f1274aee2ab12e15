import ValueShadow.Java.Source

/-!
# Types in the source and types in full

A written type consists of keywords, class names and the marks around arguments
(`PropertyType.pieces`). Its display writes the class names in full (`display_eq_written`). The
source writes the same pieces of another type, with the class names as the scope spells them: where
it declares a type, all unboxed primitives among the arguments are boxed before
(`typeName_eq_written`), and where it writes an argument, the argument itself is boxed too
(`typeArgument_eq_written`).
-/

namespace ValueShadow

namespace PropertyType

/-! ## Pieces of a written type -/

/-- A piece of a written type. -/
inductive Piece where
  /-- The keyword of an unboxed primitive. -/
  | keyword (kind : PrimitiveKind)
  /-- The name of a class. -/
  | className (name : QualifiedName)
  /-- A bracket, or what stands between two arguments. -/
  | mark (text : String)

/-- The text of a piece, with class names in this spelling. -/
def Piece.write (spell : QualifiedName → String) : Piece → String
  | .keyword kind => kind.keyword
  | .className name => spell name
  | .mark text => text

/-- The pieces one after the other, with class names in this spelling. -/
def written (spell : QualifiedName → String) (pieces : List Piece) : String :=
  String.join (pieces.map (Piece.write spell))

/-- The arguments between `<` and `>`, with a comma and a blank between them. -/
def bracketed (arguments : List (List Piece)) : List Piece :=
  .mark "<" :: ([.mark ", "].intercalate arguments ++ [.mark ">"])

mutual

/-- The pieces of a type. -/
def pieces : PropertyType → List Piece
  | .primitive (.unboxed kind) => [.keyword kind]
  | .primitive (.boxed kind) => [.className kind.boxedClass]
  | .primitive .string => [.className (.ofClass "java.lang" "String")]
  | .collection kind element => .className kind.className :: bracketed [element.pieces]
  | .keyed kind key element => .className kind.className :: bracketed [key.pieces, element.pieces]
  | .valueRef name => [.className name]
  | .parameterized raw arguments => .className raw :: bracketed (piecesOfEach arguments)

/-- The pieces of each type of a list. -/
def piecesOfEach : List PropertyType → List (List Piece)
  | [] => []
  | type :: types => type.pieces :: piecesOfEach types

end

section
variable (spell : QualifiedName → String)

@[simp]
theorem written_nil : written spell [] = "" := by
  simp [written]

@[simp]
theorem written_cons (piece : Piece) (pieces : List Piece) :
    written spell (piece :: pieces) = piece.write spell ++ written spell pieces := by
  simp [written]

@[simp]
theorem written_append (first second : List Piece) :
    written spell (first ++ second) = written spell first ++ written spell second := by
  simp [written]

/-- Arguments are written one after the other. -/
theorem written_intercalate (arguments : List (List Piece)) :
    written spell ([.mark ", "].intercalate arguments) =
      ", ".intercalate (arguments.map (written spell)) := by
  induction arguments with
  | nil => simp
  | cons first others ih =>
    cases others with
    | nil => simp
    | cons second others =>
      rw [List.intercalate_cons_cons, written_append, written_append, ih]
      simp [Piece.write, String.intercalate_cons_cons]

theorem written_bracketed (arguments : List (List Piece)) :
    written spell (bracketed arguments) =
      "<" ++ ", ".intercalate (arguments.map (written spell)) ++ ">" := by
  simp [bracketed, written_intercalate, Piece.write, String.append_assoc]

end

mutual

/-- The display of a type consists of its pieces, with the class names in full. -/
theorem display_eq_written : ∀ type : PropertyType,
    type.display = written QualifiedName.display type.pieces
  | .primitive (.unboxed _) | .primitive (.boxed _) | .valueRef _ => by
    simp [display, Primitive.display, pieces, Piece.write]
  | .primitive .string => by
    decide +kernel
  | .collection kind element => by
    simp [display, pieces, written_bracketed, Piece.write, display_eq_written element,
      String.append_assoc]
  | .keyed kind key element => by
    simp [display, pieces, written_bracketed, Piece.write, display_eq_written key,
      display_eq_written element, String.append_assoc]
  | .parameterized raw arguments => by
    simp [display, pieces, written_bracketed, Piece.write, displayAll_eq_written arguments,
      String.append_assoc]

theorem displayAll_eq_written : ∀ types : List PropertyType,
    displayAll types = (piecesOfEach types).map (written QualifiedName.display)
  | [] => by
    simp [displayAll, piecesOfEach]
  | type :: types => by
    rw [displayAll, piecesOfEach, List.map_cons, display_eq_written type,
      displayAll_eq_written types]

end

/-! ## Boxing -/

end PropertyType

/-- The primitive-like type of the same values that is a class. -/
def Primitive.box : Primitive → Primitive
  | .unboxed kind => .boxed kind
  | .boxed kind => .boxed kind
  | .string => .string

namespace PropertyType

mutual

/-- The type with every unboxed primitive in it boxed, at any depth and itself included. -/
def box : PropertyType → PropertyType
  | .primitive simple => .primitive simple.box
  | .collection kind element => .collection kind element.box
  | .keyed kind key element => .keyed kind key.box element.box
  | .valueRef name => .valueRef name
  | .parameterized raw arguments => .parameterized raw (boxEach arguments)

/-- The types of a list, with every unboxed primitive in them boxed. -/
def boxEach : List PropertyType → List PropertyType
  | [] => []
  | type :: types => type.box :: boxEach types

end

/-- The type with every unboxed primitive boxed that stands between `<` and `>`. Of all types only
the primitive-like ones are primitives in another place, where they are the whole type. -/
def boxArguments (type : PropertyType) : PropertyType :=
  if type.isPrimitive then type else type.box

/-- The name of the boxing class for the keyword of an unboxed primitive. -/
def Piece.box : Piece → Piece
  | .keyword kind => .className kind.boxedClass
  | .className name => .className name
  | .mark text => .mark text

/-- A function is applied to joined lists in each of them and in what stands between them. -/
theorem map_intercalate {α β : Type} (f : α → β) (separator : List α) (lists : List (List α)) :
    (separator.intercalate lists).map f =
      (separator.map f).intercalate (lists.map (List.map f)) := by
  induction lists with
  | nil => simp
  | cons first others ih =>
    cases others with
    | nil => simp
    | cons second others =>
      rw [List.intercalate_cons_cons, List.map_append, List.map_append, ih, List.map_cons,
        List.map_cons, List.map_cons, List.intercalate_cons_cons]

theorem map_box_bracketed (arguments : List (List Piece)) :
    (bracketed arguments).map Piece.box = bracketed (arguments.map (List.map Piece.box)) := by
  simp [bracketed, map_intercalate, Piece.box]

mutual

/-- Boxing replaces the keywords among the pieces of a type and leaves the others in their place. -/
theorem pieces_box : ∀ type : PropertyType, type.box.pieces = type.pieces.map Piece.box
  | .primitive (.unboxed _) | .primitive (.boxed _) | .primitive .string | .valueRef _ => by
    simp [box, Primitive.box, pieces, Piece.box]
  | .collection kind element => by
    simp [box, pieces, map_box_bracketed, Piece.box, pieces_box element]
  | .keyed kind key element => by
    simp [box, pieces, map_box_bracketed, Piece.box, pieces_box key, pieces_box element]
  | .parameterized raw arguments => by
    simp [box, pieces, map_box_bracketed, Piece.box, piecesOfEach_boxEach arguments]

theorem piecesOfEach_boxEach : ∀ types : List PropertyType,
    piecesOfEach (boxEach types) = (piecesOfEach types).map (List.map Piece.box)
  | [] => by
    simp [boxEach, piecesOfEach]
  | type :: types => by
    simp only [boxEach, piecesOfEach, List.map_cons, pieces_box type, piecesOfEach_boxEach types]

end

/-- No keyword is left among the pieces of a boxed type. -/
theorem keyword_notMem_map_box (kind : PrimitiveKind) (pieces : List Piece) :
    .keyword kind ∉ pieces.map Piece.box := by
  rw [List.mem_map]
  rintro ⟨piece, -, hpiece⟩
  cases piece <;> cases hpiece

/-- The pieces of a type with boxed arguments. -/
theorem pieces_boxArguments (type : PropertyType) :
    type.boxArguments.pieces =
      if type.isPrimitive then type.pieces else type.pieces.map Piece.box := by
  rw [boxArguments]
  split
  · rfl
  · exact pieces_box type

/-- A keyword is left exactly if it is the whole type. -/
theorem keyword_mem_pieces_boxArguments_iff {type : PropertyType} {kind : PrimitiveKind} :
    .keyword kind ∈ type.boxArguments.pieces ↔ type = .primitive (.unboxed kind) := by
  rw [pieces_boxArguments]
  cases type with
  | primitive simple => cases simple <;> simp [isPrimitive, pieces, eq_comm]
  | collection | keyed | valueRef | parameterized =>
    exact iff_of_false (keyword_notMem_map_box kind _) (fun h => nomatch h)

end PropertyType

namespace Java

open PropertyType

section
variable (spell : QualifiedName → String)

-- The induction is on arguments: what stands inside an argument is boxed like the argument itself,
-- while a declared type differs from its arguments at the top.
mutual

/-- A type argument is written as the pieces of the boxed type. -/
theorem typeArgument_eq_written : ∀ type : PropertyType,
    typeArgument spell type = written spell type.box.pieces
  | .primitive (.unboxed _) | .primitive (.boxed _) | .primitive .string | .valueRef _ => by
    simp [typeArgument, typeName, box, Primitive.box, pieces, Piece.write]
  | .collection kind element => by
    simp [typeArgument, typeName, box, pieces, written_bracketed, Piece.write,
      typeArgument_eq_written element, String.append_assoc]
  | .keyed kind key element => by
    simp [typeArgument, typeName, commaSeparated, box, pieces, written_bracketed, Piece.write,
      typeArgument_eq_written key, typeArgument_eq_written element, String.append_assoc]
  | .parameterized raw arguments => by
    simp [typeArgument, typeName, commaSeparated, box, pieces, written_bracketed, Piece.write,
      typeArguments_eq_written arguments, String.append_assoc]

theorem typeArguments_eq_written : ∀ types : List PropertyType,
    typeArguments spell types = (piecesOfEach (boxEach types)).map (written spell)
  | [] => by
    simp [typeArguments, boxEach, piecesOfEach]
  | type :: types => by
    rw [typeArguments, boxEach, piecesOfEach, List.map_cons, typeArgument_eq_written type,
      typeArguments_eq_written types]

end

/-- A type that is no primitive-like one is declared as it is written between `<` and `>`. -/
theorem typeArgument_eq_typeName {type : PropertyType} (h : type.isPrimitive = false) :
    typeArgument spell type = typeName spell type := by
  cases type with
  | primitive => cases h
  | collection | keyed | valueRef | parameterized => rw [typeArgument]; simp

/-- A declared type is written as the pieces of the type with boxed arguments. -/
theorem typeName_eq_written (type : PropertyType) :
    typeName spell type = written spell type.boxArguments.pieces := by
  cases hprimitive : type.isPrimitive with
  | true =>
    cases type with
    | primitive simple =>
      cases simple <;> simp [typeName, boxArguments, isPrimitive, pieces, Piece.write]
    | collection | keyed | valueRef | parameterized => cases hprimitive
  | false =>
    rw [← typeArgument_eq_typeName spell hprimitive, typeArgument_eq_written, boxArguments,
      hprimitive]
    rfl

end

/-- The source declares a type as the display of the type with boxed arguments, with every class
name in the spelling of the scope: the display consists of the same pieces with the class names in
full. The pieces are those of the type itself where this is a primitive-like one. Everywhere else
boxing classes stand in the place of the keywords, so a keyword is written exactly where an unboxed
primitive is the whole type. -/
theorem declares_boxed_arguments (spell : QualifiedName → String) (type : PropertyType) :
    typeName spell type = written spell type.boxArguments.pieces ∧
    (∀ other : PropertyType, other.display = written QualifiedName.display other.pieces) ∧
    type.boxArguments.pieces =
      (if type.isPrimitive then type.pieces else type.pieces.map Piece.box) ∧
    ∀ kind, .keyword kind ∈ type.boxArguments.pieces ↔ type = .primitive (.unboxed kind) := by
  refine ⟨typeName_eq_written spell type, display_eq_written, pieces_boxArguments type, ?_⟩
  exact fun _ => keyword_mem_pieces_boxArguments_iff

/-- Keys come before elements, and both are boxed at any depth. -/
example :
    typeName QualifiedName.display
        (.keyed .map (.primitive (.unboxed .int))
          (.parameterized (.ofClass "org.acme" "Pair")
            [.primitive (.unboxed .long), .primitive .string])) =
      "java.util.Map<java.lang.Integer, org.acme.Pair<java.lang.Long, java.lang.String>>" := by
  cbv

end Java

end ValueShadow
