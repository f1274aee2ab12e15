import ValueShadow.Files.Path

/-!
# File trees

A file system as a value: the directories and files below a root, and the directory that relative
paths start from. Paths are followed component by component; `..` leads to the directory above.
Names have at most 255 bytes and paths fewer than 4096, and neither holds the character zero.
-/

namespace ValueShadow

/-- What stands at a place of a file tree. -/
inductive FileNode where
  | directory
  | file (content : String)
  deriving DecidableEq

/-- A place of a file tree: the names from the root. -/
abbrev Place := List String

/-- The directories and files of a file system other than its root, and the working directory. -/
structure FileTree where
  working : Place
  nodes : List (Place × FileNode)

/-- Why a place is not reached. -/
inductive AccessError where
  /-- A directory on the way does not exist. -/
  | missing
  /-- A file stands in the way, or a name or path is not allowed. -/
  | refused
  deriving DecidableEq, Repr

namespace FileTree

/-- What stands at the place. -/
def node? (tree : FileTree) (place : Place) : Option FileNode :=
  if place.isEmpty then some .directory else tree.nodes.lookup place

/-- Whether a directory stands at the place. -/
def isDirectory (tree : FileTree) (place : Place) : Bool :=
  tree.node? place == some .directory

/-- The tree with a file or directory at the place. -/
def put (tree : FileTree) (place : Place) (node : FileNode) : FileTree :=
  if (tree.nodes.lookup place).isSome then
    { tree with
      nodes := tree.nodes.map fun entry => if entry.1 = place then (place, node) else entry }
  else
    { tree with nodes := tree.nodes ++ [(place, node)] }

/-- Whether the name is allowed. -/
def isName (name : String) : Bool :=
  name.utf8ByteSize ≤ 255 && !name.toList.contains '\x00'

/-- Whether the path is allowed as a whole. -/
def isPath (path : String) : Bool :=
  path.utf8ByteSize < 4096 && !path.toList.contains '\x00'

/-- The place that directories lead to from another place. -/
def follow (tree : FileTree) (place : Place) : List String → Except AccessError Place
  | [] => .ok place
  | component :: components =>
    if component = ".." then
      tree.follow place.dropLast components
    else if !isName component then
      .error .refused
    else
      match tree.node? (place ++ [component]) with
      | some .directory => tree.follow (place ++ [component]) components
      | some (.file _) => .error .refused
      | none => .error .missing

/-- The place that a path starts from. -/
def start (tree : FileTree) (path : String) : Place :=
  if Path.isAbsolute path then [] else tree.working

/-- Makes the directory at the end of the components, which are reversed, from a place on. -/
def makeDirectory (tree : FileTree) (place : Place) : List String → Except AccessError FileTree
  | [] => .error .refused
  | last :: before => do
    let directory ← tree.follow place before.reverse
    if last = ".." ∨ !isName last ∨ (tree.node? (directory ++ [last])).isSome then
      throw .refused
    return tree.put (directory ++ [last]) .directory

/-- Whether the components, which are reversed, lead to a directory. -/
def leadsToDirectory (tree : FileTree) (place : Place) (reversed : List String) : Bool :=
  (tree.follow place reversed.reverse).toOption.isSome

/-- Makes the directory at the end of the components, which are reversed, and those on the way to
it, unless they are there. -/
def makeDirectories (tree : FileTree) (place : Place) : List String → Option FileTree
  | [] => some tree
  | last :: before =>
    match tree.makeDirectory place (last :: before) with
    | .ok tree => some tree
    | .error .refused => if tree.leadsToDirectory place (last :: before) then some tree else none
    | .error .missing => do
      let tree ← tree.makeDirectories place before
      match tree.makeDirectory place (last :: before) with
      | .ok tree => return tree
      | .error _ => if tree.leadsToDirectory place (last :: before) then some tree else none

/-- Makes the directory of the path and those on the way to it, unless they are there. -/
def createDirectories (tree : FileTree) (path : String) : Option FileTree :=
  if isPath path then
    tree.makeDirectories (tree.start path) (Path.components path).reverse
  else
    none

/-- The place of the file that the path names, in a directory that exists. -/
def filePlace? (tree : FileTree) (path : String) : Option Place :=
  match (Path.components path).reverse with
  | [] => none
  | last :: before =>
    match tree.follow (tree.start path) before.reverse with
    | .error _ => none
    | .ok directory =>
      if !isPath path ∨ !isName last ∨ Path.isDirectoryLike path then none
      else some (directory ++ [last])

/-- The content of the file. -/
def readText (tree : FileTree) (path : String) : Option String := do
  match tree.node? (← tree.filePlace? path) with
  | some (.file content) => some content
  | _ => none

/-- The tree after the file was written, in a directory that exists. -/
def writeText (tree : FileTree) (path content : String) : Option FileTree := do
  let place ← tree.filePlace? path
  if tree.isDirectory place then
    none
  return tree.put place (.file content)

/-- The files below the working directory, by their paths from there. -/
def workingFiles (tree : FileTree) : List (String × String) :=
  tree.nodes.filterMap fun (place, node) =>
    match node with
    | .directory => none
    | .file content =>
      if tree.working.isPrefixOf place then
        some (Text.joined '/' (place.drop tree.working.length), content)
      else
        none

end FileTree

end ValueShadow
