import ValueShadow.Text.Segments

/-!
# Qualified class names

A class is named by its package and by the simple names of the classes around it, outermost first,
down to its own. `display` writes the name with dots and `ofDotted` reads such a text: the leading
segments that start with a small letter of the Latin alphabet are the package.
-/

namespace ValueShadow

open Text

/-- A package and the simple names from the outermost class to the named one. -/
structure QualifiedName where
  package : String
  simpleNames : List String
  nonempty : simpleNames ≠ []
  deriving DecidableEq

namespace QualifiedName

/-- The top-level class of a package. -/
def ofClass (package simpleName : String) : QualifiedName :=
  ⟨package, [simpleName], by simp⟩

/-- Whether a segment of a dotted name belongs to the package: it starts with `a` to `z`. -/
def isPackageSegment (segment : String) : Bool :=
  match segment.toList with
  | [] => false
  | c :: _ => c.isLower

/-- Reads a dotted name. The leading package segments form the package; when every segment is one,
the last is the class. -/
def ofDotted (text : String) : QualifiedName :=
  let parts := segments '.' text
  match parts.dropWhile isPackageSegment with
  | outermost :: inner =>
    ⟨joined '.' (parts.takeWhile isPackageSegment), outermost :: inner, by simp⟩
  | [] => ⟨joined '.' parts.dropLast, [parts.getLast (segments_ne_nil '.' text)], by simp⟩

/-- The class's own simple name. -/
def simpleName (name : QualifiedName) : String :=
  name.simpleNames.getLast name.nonempty

/-- The simple names with dots, as written inside the package. -/
def relativeName (name : QualifiedName) : String :=
  joined '.' name.simpleNames

/-- The whole name with dots. -/
def display (name : QualifiedName) : String :=
  if name.package.isEmpty then name.relativeName else name.package ++ "." ++ name.relativeName

/-- The class of that simple name inside this one. -/
def nested (name : QualifiedName) (simpleName : String) : QualifiedName :=
  ⟨name.package, name.simpleNames ++ [simpleName], by simp⟩

/-- The class of that simple name beside this one. -/
def withSimpleName (name : QualifiedName) (simpleName : String) : QualifiedName :=
  ⟨name.package, name.simpleNames.dropLast ++ [simpleName], by simp⟩

/-- The same class names in another package. -/
def inPackage (name : QualifiedName) (package : String) : QualifiedName :=
  ⟨package, name.simpleNames, name.nonempty⟩

/-- The outermost class around this one, itself if there is none. -/
def topLevel (name : QualifiedName) : QualifiedName :=
  ⟨name.package, [name.simpleNames.head name.nonempty], by simp⟩

/-- The order by package, then by the simple names from the outermost. -/
instance : Ord QualifiedName where
  compare a b := (compare a.package b.package).then (compare a.simpleNames b.simpleNames)

end QualifiedName

end ValueShadow
