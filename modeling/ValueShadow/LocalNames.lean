import ValueShadow.Identifier

/-!
# Fresh names for local variables

`LocalNames` is the set of names that a method body already uses. `LocalNames.allocate` hands out
the wanted name, made into an identifier and followed by the fewest underscores that make it free.
The number of underscores is found among the first `taken.length + 2`, which always suffice: one
underscore more turns a reserved word into an identifier, and each taken name blocks one number.
-/

namespace ValueShadow

/-- The names in use. -/
structure LocalNames where
  taken : List String

namespace LocalNames

/-- The base without the characters that no identifier holds, after an underscore if its first
character cannot start one. -/
def stem (base : String) : String :=
  match base.toList with
  | [] => "_"
  | c :: rest =>
    let chars := if isIdentifierStart c then c :: rest else '_' :: c :: rest
    String.ofList (chars.filter isIdentifierPart)

/-- The stem followed by `count` underscores. -/
def underscored (stem : String) (count : Nat) : String :=
  stem ++ String.ofList (List.replicate count '_')

/-- Whether the name is an identifier that is not in use. -/
def isFree (names : LocalNames) (name : String) : Bool :=
  !names.taken.contains name && isIdentifier name

/-- The least number of underscores that makes the stem free. -/
def underscores (names : LocalNames) (stem : String) : Nat :=
  ((List.range (names.taken.length + 2)).find? fun count =>
    names.isFree (underscored stem count)).getD 0

/-- The name handed out for a base, and the names in use after it. -/
def allocate (names : LocalNames) (base : String) : String × LocalNames :=
  let name := underscored (stem base) (names.underscores (stem base))
  (name, ⟨name :: names.taken⟩)

/-- The names handed out for several bases, one after the other. -/
def allocateAll (names : LocalNames) : List String → List String
  | [] => []
  | base :: bases =>
    let (name, names) := names.allocate base
    name :: names.allocateAll bases

end LocalNames

end ValueShadow
