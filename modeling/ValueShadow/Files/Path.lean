import ValueShadow.Text.Segments

/-!
# Paths

A path is a text with `/` between its components. `Path.push` goes one step further, and a step that
starts with `/` starts anew from the root. `Path.parent` is the path of the directory that holds the
last component.
-/

namespace ValueShadow.Path

open Text

/-- Whether the path starts from the root. -/
def isAbsolute (path : String) : Bool :=
  path.toList.head? == some '/'

/-- The path one step further. -/
def push (path step : String) : String :=
  if isAbsolute step then step
  else if path.isEmpty ∨ path.toList.getLast? = some '/' then path ++ step
  else path ++ "/" ++ step

/-- The components of the path, without empty ones and those that stay where they are. -/
def components (path : String) : List String :=
  (segments '/' path).filter fun component => component != "" && component != "."

/-- The reversed path without the slashes and the staying components at its end. -/
def trimEnd : List Char → List Char
  | '/' :: rest => trimEnd rest
  | '.' :: '/' :: rest => trimEnd rest
  | reversed => reversed

/-- The path of the directory that holds the last component, which is neither empty nor `.`. -/
def parent (path : String) : String :=
  match path.toList.reverse.dropWhile (· != '/') with
  | [] => ""
  | reversed =>
    let trimmed := String.ofList (trimEnd reversed).reverse
    if trimmed.isEmpty then "/" else trimmed

/-- Whether the path can only be that of a directory: it ends with a slash, `.` or `..`. -/
def isDirectoryLike (path : String) : Bool :=
  match (segments '/' path).getLast? with
  | none => true
  | some last => last == "" || last == "." || last == ".."

end ValueShadow.Path
