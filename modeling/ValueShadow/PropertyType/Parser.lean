import ValueShadow.PropertyType.Token

/-!
# Reading a type

A type is a name, alone or with a list of types between `<` and `>`. The lists may stand inside one
another eight deep. A name is a primitive-like type, one of the two containers, or a class: a class
name without a package belongs to the package that the type is read in.
-/

namespace ValueShadow

open Text

namespace PropertyType

/-- How deep lists of arguments may stand inside one another. -/
def maxDepth : Nat := 8

/-- Whether a segment of the dotted name is empty. -/
def isMalformed (name : String) : Bool :=
  (segments '.' name).any String.isEmpty

/-- The class that a name denotes in a package. -/
def resolveClass (package name : String) : QualifiedName :=
  let read := QualifiedName.ofDotted name
  if read.package.isEmpty then read.inPackage package else read

/-- The type that a name with arguments denotes in a package. -/
def ofName (package name : String) (arguments : List PropertyType) :
    Except TypeProblem PropertyType :=
  match Primitive.ofName? name, CollectionKind.ofName? name, arguments with
  | some simple, _, [] => .ok (.primitive simple)
  | some _, _, _ :: _ => .error (.primitiveArguments name)
  | none, some .list, [element] => .ok (.collection .list element)
  | none, some .map, [key, element] => .ok (.keyed .map key element)
  | none, some kind, _ => .error (.argumentCount kind arguments.length)
  | none, none, [] => .ok (.valueRef (resolveClass package name))
  | none, none, _ :: _ => .ok (.parameterized (resolveClass package name) arguments)

/-- Reads a list of arguments up to its `>`, each by `item`, and gives the tokens after it. The
bound counts arguments; one more than there are tokens is never reached. -/
def readArguments (item : List Token → Except TypeProblem (PropertyType × List Token)) :
    Nat → List Token → Except TypeProblem (List PropertyType × List Token)
  | 0, _ => .error .unclosed
  | bound + 1, tokens => do
    let (argument, rest) ← item tokens
    match rest with
    | .comma :: rest =>
      let (arguments, rest) ← readArguments item bound rest
      return (argument :: arguments, rest)
    | .closing :: rest => return ([argument], rest)
    | found :: _ => throw (.badSeparator found)
    | [] => throw .unclosed

/-- Reads one type with at most `depth` lists of arguments inside one another, and gives the tokens
after it. -/
def read (package : String) : Nat → List Token → Except TypeProblem (PropertyType × List Token)
  | _, [] => .error (.missingName none)
  | depth, .name name :: rest =>
    if isMalformed name then
      .error (.malformedName name)
    else
      match depth, rest with
      | 0, .opening :: _ => .error (.tooDeep maxDepth)
      | depth + 1, .opening :: rest => do
        let (arguments, rest) ← readArguments (read package depth) (rest.length + 1) rest
        let type ← ofName package name arguments
        return (type, rest)
      | _, rest => do
        let type ← ofName package name []
        return (type, rest)
  | _, found :: _ => .error (.missingName (some found))

/-- Reads a text that holds one type. -/
def parse (package text : String) : Except TypeProblem PropertyType := do
  let tokens ← Token.scan text
  match ← read package maxDepth tokens with
  | (type, []) => return type
  | (_, found :: _) => throw (.trailing found)

end PropertyType

end ValueShadow
