import ValueShadow.OrderedSet
import ValueShadow.QualifiedName

/-!
# Class names in one source file

Each simple name stands for at most one class in a file, its owner: the declared class first, then
the least referenced class of the file's package or of `java.lang`, then the least referenced class
of another package, which is imported. A class is spelled by its relative name when its top level
owns its simple name, and in full otherwise.
-/

namespace ValueShadow.Java

/-- The names that are in force in one file. -/
structure Scope where
  /-- The top-level classes that own their simple name. -/
  owners : List QualifiedName
  /-- The dotted names of the imported classes, in ascending order. -/
  imports : List String

namespace Scope

/-- The class that owns the simple name. -/
def owner? (scope : Scope) (simpleName : String) : Option QualifiedName :=
  scope.owners.find? (·.simpleName == simpleName)

/-- Whether a class of that package is visible by its simple name without an import. -/
def isImplicit (package : String) (name : QualifiedName) : Bool :=
  name.package == package || name.package == "java.lang"

/-- The scope in which the class also owns its simple name, unless another one does. -/
def declare (scope : Scope) (name : QualifiedName) : Scope :=
  match scope.owner? name.simpleName with
  | some _ => scope
  | none => { scope with owners := scope.owners ++ [name] }

/-- The scope in which the class is imported, unless another one owns its simple name. A class that
owns it already is imported too. -/
def addImport (scope : Scope) (name : QualifiedName) : Scope :=
  let scope := scope.declare name
  if scope.owner? name.simpleName = some name then
    { scope with imports := OrderedSet.insert name.display scope.imports }
  else
    scope

/-- The scope of a file of `package` that declares a class and refers to others. -/
def ofNames (package : String) (declared : QualifiedName) (names : List QualifiedName) : Scope :=
  let (implicit, explicit) :=
    (OrderedSet.ofList (names.map QualifiedName.topLevel)).partition (isImplicit package)
  let scope := implicit.foldl declare (declare ⟨[], []⟩ declared.topLevel)
  explicit.foldl addImport scope

/-- How the class is written in the file. -/
def spell (scope : Scope) (name : QualifiedName) : String :=
  if scope.owner? name.topLevel.simpleName = some name.topLevel then
    name.relativeName
  else
    name.display

end Scope

end ValueShadow.Java
